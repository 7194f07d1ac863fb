import Keymap.Output.Basic

/-!
# Typing a fragment

- `FragmentCase`: how a fragment is cased.
- `capitaliseFirst`: a text whose first character is a capital.
- `typeFragment`: backspaces, then the text.
-/

namespace Keymap

/-- How a typed fragment is cased. -/
structure FragmentCase where
  /-- Caps word is on: the whole fragment is shifted. -/
  shifted : Bool := false
  /-- Sentence case asks for a capital at the front. -/
  capitalise : Bool := false
  deriving DecidableEq

/-- The characters with an ASCII letter at the front made a capital. -/
def capitaliseFirst : List Char → List Char
  | c :: rest => c.toUpper :: rest
  | [] => []

/-- The text of a fragment as it is sent. Shifting it as a whole leaves nothing
for the capital to do. -/
def FragmentCase.apply (case : FragmentCase) (text : String) : String :=
  if case.capitalise && !case.shifted then String.ofList (capitaliseFirst text.toList) else text

/-- Deletes characters, then types a text. -/
def typeFragment (text : String) (backspaces : Nat) (case : FragmentCase) : List Output :=
  List.replicate backspaces (.tap .backspace ∅) ++ [.text (case.apply text) case.shifted]

end Keymap
