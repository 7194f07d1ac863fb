/-!
# Readers

A reader takes something off the front of a text, or fails.

- `Reader`: readers that give a value.
- `satisfy`, `char`, `word`, `takeWhile`, `takeWhile1`: single characters and
  runs of them.
- `optional?`, `many`, `sepBy`: what may be missing or repeated.
- `spelling`: what a reader takes off, as it is written.
-/

namespace Keymap.Toml

/-- A reader: the value that is read and the rest of the text, or nothing. -/
abbrev Reader := StateT (List Char) Option

namespace Reader

variable {α : Type}

/-- The next character, if it is in a class. -/
def satisfy (p : Char → Bool) : Reader Char
  | c :: rest => if p c then some (c, rest) else none
  | [] => none

/-- A given character. -/
def char (c : Char) : Reader Unit := do
  let _ ← satisfy (· == c)

/-- Given characters in a row. -/
def word : List Char → Reader Unit
  | [] => pure ()
  | c :: rest => do
    char c
    word rest

/-- The longest run of characters of a class, possibly empty. -/
def takeWhile (p : Char → Bool) : Reader (List Char) :=
  fun cs => some (cs.takeWhile p, cs.dropWhile p)

/-- The longest run of characters of a class, at least one. -/
def takeWhile1 (p : Char → Bool) : Reader (List Char) := do
  let run ← takeWhile p
  guard !run.isEmpty
  return run

/-- Nothing is left. -/
def finished : Reader Unit
  | [] => some ((), [])
  | _ :: _ => none

/-- What a reader reads, or nothing if it fails. -/
def optional? (r : Reader α) : Reader (Option α) :=
  some <$> r <|> pure none

/-- What a reader reads again and again, until it fails or takes nothing off. -/
def repeated (r : Reader α) (cs : List Char) : List α × List Char :=
  match r cs with
  | none => ([], cs)
  | some (value, rest) =>
    if rest.length < cs.length then
      let (values, rest) := repeated r rest
      (value :: values, rest)
    else ([], cs)
termination_by cs.length

/-- What a reader reads again and again, until it fails or takes nothing off. -/
def many (r : Reader α) : Reader (List α) :=
  fun cs => some (repeated r cs)

/-- One item or more with separators between them. -/
def sepBy1 (item : Reader α) (separator : Reader Unit) : Reader (List α) := do
  let first ← item
  let more ← many do
    separator
    item
  return first :: more

/-- Items with separators between them, possibly none. -/
def sepBy (item : Reader α) (separator : Reader Unit) : Reader (List α) :=
  sepBy1 item separator <|> pure []

/-- What a reader takes off, as it is written. -/
def spelling (r : Reader α) : Reader String := fun cs => do
  let (_, rest) ← r cs
  return (String.ofList (cs.take (cs.length - rest.length)), rest)

end Reader

end Keymap.Toml
