import Keymap.Text.CodeRange

/-!
# Blanks

White space is every character with the Unicode property `White_Space`: tab to
carriage return, the space, and nineteen characters beyond ASCII.

- `isBlank`: the property.
- `trim`: a text without blanks at its ends.
- `words`: the maximal runs of characters that are not blank.
-/

namespace Keymap.Text

/-- The ranges of `White_Space`. -/
def blankRanges : List CodeRange :=
  [(0x09, 0x0D), (0x20, 0x20), (0x85, 0x85), (0xA0, 0xA0), (0x1680, 0x1680),
    (0x2000, 0x200A), (0x2028, 0x2029), (0x202F, 0x202F), (0x205F, 0x205F), (0x3000, 0x3000)]

/-- A white-space character. -/
def isBlank (c : Char) : Bool :=
  CodeRange.covers blankRanges c

/-- The characters without the blanks at both ends. -/
def trimChars (cs : List Char) : List Char :=
  ((cs.dropWhile isBlank).reverse.dropWhile isBlank).reverse

/-- The text without the blanks at both ends. -/
def trim (s : String) : String :=
  String.ofList (trimChars s.toList)

/-- Collects words from the right: the word that is still open at the left end,
and the finished ones. -/
def wordStep (c : Char) : List Char × List (List Char) → List Char × List (List Char)
  | ([], done) => if isBlank c then ([], done) else ([c], done)
  | (word, done) => if isBlank c then ([], word :: done) else (c :: word, done)

/-- The maximal runs of characters that are not blank, in order. -/
def words (cs : List Char) : List (List Char) :=
  match cs.foldr wordStep ([], []) with
  | ([], done) => done
  | (word, done) => word :: done

end Keymap.Text
