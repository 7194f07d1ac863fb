/-!
# Ranges of code points

A property of characters is given by a table of ranges of code points, first
and last of each range included.

- `CodeRange`: a range of code points.
- `CodeRange.covers`: whether a table of ranges has a character.
-/

namespace Keymap.Text

/-- A range of code points, both ends included. -/
abbrev CodeRange := Nat × Nat

/-- Whether one of the ranges holds the code point of `c`. -/
def CodeRange.covers (table : List CodeRange) (c : Char) : Bool :=
  table.any fun (first, last) => first ≤ c.toNat && c.toNat ≤ last

end Keymap.Text
