import Keymap.Toml.Value

/-!
# Building TOML tables

A document is built line by line. Each header and each key and value adds to the
tables that are there, and nothing is defined twice: a header opens a new table
or one that was only implied, and a dotted key reaches only into tables that
headers imply or dotted keys made.

- `KeyPath`: a name behind the names of the tables that lead to it.
- `Change`: something that is done to a table, or refused.
- `descend`: a change to a table further down.
- `store`, `storeAt`: a value is set.
- `openTable`, `openElement`: a header is read.
-/

namespace Keymap.Toml

/-- A name, and the names of the tables that lead to it. -/
structure KeyPath where
  parents : List String
  name : String
  deriving DecidableEq

/-- All the names of a path. -/
def KeyPath.names (path : KeyPath) : List String :=
  path.parents ++ [path.name]

/-- What is done to a table, given how it was written: its entries afterwards,
or nothing if that is refused. -/
abbrev Change := TableForm → Entries → Option Entries

/-- Gives the entry with a name another value. -/
def Entries.replace (entries : Entries) (name : String) (value : Value) : Entries :=
  entries.map fun entry => if entry.1 = name then (name, value) else entry

/-- Whether a path leads through a table: `dotted` is for dotted keys, and
otherwise it is the path of a header. -/
def TableForm.admits (form : TableForm) (dotted : Bool) : Bool :=
  match form with
  | .inline => false
  | .headed => !dotted
  | .implied | .dotted => true

/-- Does something to the table at the end of a path. Tables that are missing on
the way are made, and a table in double brackets stands for its newest
element. -/
def descend (dotted : Bool) (change : Change) : List String → Change
  | [], form, entries => change form entries
  | name :: path, _, entries => do
    match entries.lookup name with
    | none =>
      let form := if dotted then .dotted else .implied
      return entries ++ [(name, .table form (← descend dotted change path form []))]
    | some (.table form inner) =>
      guard (form.admits dotted)
      return entries.replace name (.table form (← descend dotted change path form inner))
    | some (.tables newest older) =>
      return entries.replace name
        (.tables (← descend dotted change path .headed newest) older)
    | some _ => none

/-! ## Values -/

/-- Sets a name that is not set yet. A dotted key ends in a table that a dotted
key made, any other key in one that no dotted key made. -/
def store (dotted : Bool) (name : String) (value : Value) : Change := fun form entries => do
  guard ((form == .dotted) == dotted)
  guard (entries.lookup name).isNone
  return entries ++ [(name, value)]

/-- Sets the name at the end of a path. -/
def storeAt (path : KeyPath) (value : Value) : Change :=
  descend true (store (!path.parents.isEmpty) path.name value) path.parents

/-! ## Headers -/

/-- Opens the table with a name, which is new or was only implied so far. -/
def openTable (name : String) : Change := fun _ entries =>
  match entries.lookup name with
  | none => some (entries ++ [(name, .table .headed [])])
  | some (.table .implied inner) => some (entries.replace name (.table .headed inner))
  | some _ => none

/-- Adds a table to those in double brackets with a name. -/
def openElement (name : String) : Change := fun _ entries =>
  match entries.lookup name with
  | none => some (entries ++ [(name, .tables [] [])])
  | some (.tables newest older) => some (entries.replace name (.tables [] (newest :: older)))
  | some _ => none

end Keymap.Toml
