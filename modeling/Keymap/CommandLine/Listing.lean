import Keymap.Expansion.Tables
import Keymap.Key.Name
import Keymap.Text.Quoted

/-!
# Table listings

- `listing`: all tables as lines of text.
-/

namespace Keymap.CommandLine

/-- A key's name, filled up with blanks to fourteen characters. -/
def keyColumn (key : Key) : String :=
  key.name ++ String.ofList (List.replicate (14 - key.name.length) ' ')

/-- A line of a table: a key and what it stands for. -/
def row (key : Key) (entry : String) : String :=
  s!"  {keyColumn key} {entry}"

/-- The lines of a table under a title. -/
def tableLines {α : Type} (title : String) (describe : α → String) (table : KeyTable α) :
    List String :=
  s!"[{title}]" :: table.entries.map fun entry => row entry.1 (describe entry.2)

/-- An expansion as text: the backspaces, the text and the key to repeat. -/
def describeExpansion (expansion : Expansion) : String :=
  String.ofList (List.replicate expansion.backspaces '⌫') ++
    s!"{Text.quoted expansion.text} -> {expansion.repeatKey.name}"

/-- A word macro as text. -/
def describeWord (word : WordMacro) : String :=
  s!"{Text.quoted word.text} -> {word.repeatKey.name}"

/-- All tables: magic, alternate repeat, word macros. -/
def listing : List String :=
  tableLines leftTable.name describeExpansion leftTable ++
    tableLines rightTable.name describeExpansion rightTable ++
    tableLines bigramTable.name Text.quoted bigramTable ++
    tableLines completionTable.name Text.quoted completionTable ++
    tableLines "word-macros" describeWord wordTable

end Keymap.CommandLine
