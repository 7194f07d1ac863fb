import Keymap.Toml.Reader

/-!
# TOML texts

A text stands in double or single quotes, or in three of either kind if it runs
over several lines. Between double quotes a backslash starts an escape; between
single quotes every character stands for itself.

- `isPlain`: the characters that may stand anywhere.
- `newline`, `blanks`, `comment`: what separates things.
- `escape`: an escape.
- `basicText`, `literalText`: a text on one line.
- `text`: a text in any of the four forms.
-/

namespace Keymap.Toml

open Reader

/-- A character that may stand in a comment or a text: the tab and all that are
no control characters. -/
def isPlain (c : Char) : Bool :=
  c == '\t' || (' ' ≤ c && c != '\x7F')

/-- A line end: a line feed, possibly after a carriage return. -/
def newline : Reader Unit :=
  char '\n' <|> word ['\r', '\n']

/-- A space or tab. -/
def isSpacing (c : Char) : Bool :=
  c == ' ' || c == '\t'

/-- Spaces and tabs, possibly none. -/
def blanks : Reader Unit := do
  let _ ← takeWhile isSpacing

/-- A comment, up to the end of its line. -/
def comment : Reader Unit := do
  char '#'
  let _ ← takeWhile isPlain

/-! ## Escapes -/

/-- A hexadecimal digit. -/
def isHexDigit (c : Char) : Bool :=
  c.isDigit || ('a' ≤ c.toLower && c.toLower ≤ 'f')

/-- The value of a digit, in any base up to sixteen. -/
def digitValue (c : Char) : Nat :=
  if c.isDigit then c.toNat - '0'.toNat else c.toLower.toNat - 'a'.toNat + 10

/-- The number that digits denote in a base. -/
def valueIn (base : Nat) (digits : List Char) : Nat :=
  digits.foldl (fun n c => base * n + digitValue c) 0

/-- A character given by the number of its code point, in some hexadecimal
digits. -/
def codePoint (digits : Nat) : Reader Char := fun cs => do
  let number := cs.take digits
  guard (number.length = digits && number.all isHexDigit)
  let n := valueIn 16 number
  if h : n.isValidChar then some (Char.ofNatAux n h, cs.drop digits) else none

/-- What a character stands for after a backslash. -/
def escaped? : Char → Option Char
  | 'b' => some '\x08'
  | 't' => some '\t'
  | 'n' => some '\n'
  | 'f' => some '\x0C'
  | 'r' => some '\r'
  | '"' => some '"'
  | '\\' => some '\\'
  | _ => none

/-- An escape. -/
def escape : Reader Char := do
  char '\\'
  match ← satisfy fun _ => true with
  | 'u' => codePoint 4
  | 'U' => codePoint 8
  | c => StateT.lift (escaped? c)

/-- Characters between double quotes: some that stand for themselves, or an
escape. -/
def basicChars : Reader (List Char) :=
  takeWhile1 (fun c => isPlain c && c != '"' && c != '\\') <|> (List.singleton <$> escape)

/-! ## One line -/

/-- A text in double quotes. -/
def basicText : Reader (List Char) := do
  char '"'
  let parts ← many basicChars
  char '"'
  return parts.flatten

/-- A text in single quotes. -/
def literalText : Reader (List Char) := do
  char '\x27'
  let chars ← takeWhile fun c => isPlain c && c != '\x27'
  char '\x27'
  return chars

/-! ## Several lines -/

/-- A line end inside a text. -/
def lineFeed : Reader Char := do
  newline
  return '\n'

/-- A backslash at the end of a line, with all blanks and line ends after it.
It stands for nothing. -/
def continuation : Reader (List Char) := do
  char '\\'
  blanks
  newline
  let _ ← many ((do let _ ← satisfy isSpacing) <|> newline)
  return []

/-- A quote or two that do not end the text: another character follows. -/
def innerQuotes (quote : Char) : Reader (List Char) := fun cs =>
  let run := cs.takeWhile (· == quote)
  if run.isEmpty || 3 ≤ run.length then none else some (run, cs.drop run.length)

/-- Three quotes that end the text, with up to two more in front of them that
belong to it. -/
def closingQuotes (quote : Char) : Reader (List Char) := fun cs =>
  let run := cs.takeWhile (· == quote)
  if run.length < 3 || 5 < run.length then none
  else some (run.drop 3, cs.drop run.length)

/-- A text between three quotes of a kind, given a reader of what else may stand
in it. A line end right after the first three quotes is left out. -/
def longText (quote : Char) (content : Reader (List Char)) : Reader (List Char) := do
  word [quote, quote, quote]
  let _ ← optional? newline
  let parts ← many (content <|> (List.singleton <$> lineFeed) <|> innerQuotes quote)
  let last ← closingQuotes quote
  return parts.flatten ++ last

/-- A text in three double quotes. -/
def longBasicText : Reader (List Char) :=
  longText '"' (continuation <|> basicChars)

/-- A text in three single quotes. -/
def longLiteralText : Reader (List Char) :=
  longText '\x27' (takeWhile1 fun c => isPlain c && c != '\x27')

/-- A text in any form. -/
def text : Reader String :=
  String.ofList <$> (longBasicText <|> basicText <|> longLiteralText <|> literalText)

end Keymap.Toml
