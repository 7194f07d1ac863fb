import Keymap.Toml.Expression

/-!
# TOML documents

- `Statement`: what a line of a document says.
- `statements`: the statements of a text.
- `Entries.ofStatements?`: the table that statements build.
- `parse`: the table that a text stands for, unless it is no TOML document.
-/

namespace Keymap.Toml

open Reader

/-- What a line of a document says. -/
inductive Statement where
  /-- A table follows. -/
  | table (path : KeyPath)
  /-- One more of the tables with a name follows. -/
  | element (path : KeyPath)
  | assign (path : KeyPath) (value : Value)

/-! ## Lines -/

/-- What may stand at the end of a line. -/
def lineEnd : Reader Unit := do
  blanks
  let _ ← optional? comment
  newline <|> finished

/-- A header in brackets. -/
def header : Reader Statement := do
  char '['
  let path ← keyPath
  char ']'
  return .table path

/-- A header in double brackets. -/
def elementHeader : Reader Statement := do
  word ['[', '[']
  let path ← keyPath
  word [']', ']']
  return .element path

/-- A key and its value on a line. -/
def assignLine : Reader Statement := do
  let (path, value) ← assignment value
  return .assign path value

/-- A line, and what it says. The last line need not end. -/
def line : Reader (Option Statement) := do
  blanks
  let statement ← optional? (elementHeader <|> header <|> assignLine)
  lineEnd
  return statement

/-- The statements of a text, which may start with a byte order mark. -/
def statements : Reader (List Statement) := do
  let _ ← optional? (char '\uFEFF')
  let lines ← many line
  finished
  return lines.filterMap id

/-! ## The document -/

/-- A document that is being built: its entries and the path of the table that
is open. -/
structure Draft where
  entries : Entries := []
  opened : List String := []

/-- What a statement adds. -/
def Draft.add (draft : Draft) : Statement → Option Draft
  | .table path => do
    let entries ← descend false (openTable path.name) path.parents .headed draft.entries
    return ⟨entries, path.names⟩
  | .element path => do
    let entries ← descend false (openElement path.name) path.parents .headed draft.entries
    return ⟨entries, path.names⟩
  | .assign path value => do
    let entries ← descend false (storeAt path value) draft.opened .headed draft.entries
    return { draft with entries := entries }

/-- The table that a text stands for. -/
def parse (text : String) : Option Value := do
  let (lines, _) ← statements.run text.toList
  let draft ← lines.foldlM Draft.add {}
  return .table .headed draft.entries

end Keymap.Toml
