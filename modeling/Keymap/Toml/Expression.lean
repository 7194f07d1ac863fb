import Keymap.Toml.Moment
import Keymap.Toml.Table

/-!
# TOML expressions

- `keyPath`: a key, possibly dotted; at most 79 names.
- `value`: a value; arrays and inline tables nest at most 79 deep.
-/

namespace Keymap.Toml

open Reader

/-- Names in a row and brackets around a value number less than this. -/
def nestingLimit : Nat := 80

/-! ## Keys -/

/-- A character of a key without quotes. -/
def isBareKeyChar (c : Char) : Bool :=
  c.isAlphanum || c == '_' || c == '-'

/-- One name of a key. -/
def keyName : Reader String :=
  String.ofList <$> (basicText <|> literalText <|> takeWhile1 isBareKeyChar)

/-- A key: names with dots between them, each with blanks around it. -/
def keyPath : Reader KeyPath := do
  let names ← sepBy1 (do blanks; let name ← keyName; blanks; return name) (char '.')
  guard (names.length < nestingLimit)
  return ⟨names.dropLast, names.getLast?.getD ""⟩

/-! ## Values -/

/-- A truth value. -/
def boolean : Reader Bool := do
  (do word ['t', 'r', 'u', 'e']; return true) <|>
    (do word ['f', 'a', 'l', 's', 'e']; return false)

/-- A value without parts. -/
def scalar : Reader Value :=
  .text <$> text <|> .moment <$> moment <|> .float <$> float <|> .integer <$> integer <|>
    .boolean <$> boolean

/-- What may stand around the members of an array: blanks, line ends and
comments. -/
def gap : Reader Unit := do
  let _ ← many ((do let _ ← takeWhile1 isSpacing) <|> newline <|> (do comment; newline))

/-- Values in brackets. A comma may follow the last one. -/
def array (member : Reader Value) : Reader (List Value) := do
  char '['
  let values ← sepBy (do gap; let value ← member; gap; return value) (char ',')
  if !values.isEmpty then
    let _ ← optional? (char ',')
  gap
  char ']'
  return values

/-- A key and its value. -/
def assignment (member : Reader Value) : Reader (KeyPath × Value) := do
  let path ← keyPath
  char '='
  blanks
  let value ← member
  return (path, value)

/-- Keys and values in braces, on one line. -/
def inlineTable (member : Reader Value) : Reader Entries := do
  char '\x7b'
  let assignments ← sepBy (do let entry ← assignment member; blanks; return entry) (char ',')
  blanks
  char '\x7d'
  StateT.lift <| assignments.foldlM (fun entries (path, value) =>
    storeAt path value .inline entries) []

/-- A value that nests at most so deep. -/
def valueWithin : Nat → Reader Value
  | 0 => scalar
  | depth + 1 =>
    scalar <|> .array <$> array (valueWithin depth) <|>
      .table .inline <$> inlineTable (valueWithin depth)

/-- A value. -/
def value : Reader Value :=
  valueWithin (nestingLimit - 1)

end Keymap.Toml
