import Keymap.Key.Class
import Keymap.Modifier

/-!
# The switch between `h` and `v`

One key that types `v` after a vowel and `h` after anything else, and one that
does it the other way round.

- `VowelSwitch.choose`: the key that is typed.
- `VowelSwitch.tapMods`: the modifiers it is typed with.
-/

namespace Keymap.VowelSwitch

/-- The key to type. In a shortcut the choice is fixed, so that both `h` and `v`
can be reached: `h` for the plain switch, `v` for the reversed one. -/
def choose (reversed : Bool) (remembered : Key) (mods : ModMask) : Key :=
  if mods.hasNonShift then (if reversed then .v else .h)
  else if remembered.isVowel != reversed then .v
  else .h

/-- The modifiers to type it with. -/
def tapMods (mods : ModMask) (uppercase : Bool) : ModMask :=
  if mods.hasNonShift then mods
  else if uppercase then mods ∪ .single .leftShift
  else mods

end Keymap.VowelSwitch
