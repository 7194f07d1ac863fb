/-!
# Letter case

Names are compared without regard to the case of ASCII letters; every other
character has to agree exactly.

- `foldCase`: the characters of a text with ASCII capitals lowered.
- `sameName`: equality of names up to the case of ASCII letters.
-/

namespace Keymap.Text

/-- The characters of `s`, its ASCII capitals turned into small letters. -/
def foldCase (s : String) : List Char :=
  s.toList.map Char.toLower

/-- Whether two names agree up to the case of ASCII letters. -/
def sameName (s t : String) : Bool :=
  foldCase s == foldCase t

end Keymap.Text
