import Keymap.Key.Basic

/-!
# Tables by key

A table assigns something to some keys. Its entries are listed in the order in
which the keys first came in.

- `KeyTable`: a named table.
- `KeyTable.ofEntries`: the table of a list of entries; a later entry for the
  same key replaces the value and keeps the place.
- `KeyTable.find?`: the entry of a key.
-/

namespace Keymap

/-- A named table of entries by key. -/
structure KeyTable (α : Type) where
  name : String
  entries : List (Key × α)

namespace KeyTable

variable {α : Type}

/-- Adds an entry to a list of entries, or replaces the value of its key. -/
def insertEntry (entries : List (Key × α)) (key : Key) (value : α) : List (Key × α) :=
  if entries.any fun entry => entry.1 == key then
    entries.map fun entry => if entry.1 == key then (key, value) else entry
  else entries ++ [(key, value)]

/-- The table of a list of entries. -/
def ofEntries (name : String) (entries : List (Key × α)) : KeyTable α where
  name := name
  entries := entries.foldl (fun table (key, value) => insertEntry table key value) []

/-- The entry of a key. -/
def find? (table : KeyTable α) (key : Key) : Option α :=
  table.entries.lookup key

/-- The number of entries. -/
def size (table : KeyTable α) : Nat :=
  table.entries.length

/-- Whether the table has no entry. -/
def isEmpty (table : KeyTable α) : Bool :=
  table.entries.isEmpty

end KeyTable

end Keymap
