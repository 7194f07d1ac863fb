import Keymap.Modifier

/-!
# Home-row mod-taps

A mod-tap types a letter when it is tapped and holds a modifier when it is held.

- `ModTap`: the key, the key that a tap types, and the modifier of a hold.
- `ModTap.ofKey?`: the mod-tap of a key.
-/

namespace Keymap

/-- A key that types `tap` when tapped and holds `modifier` otherwise. -/
structure ModTap where
  key : Key
  tap : Key
  modifier : Modifier
  deriving DecidableEq

namespace ModTap

/-- The mod-tap of a home-row key. -/
def ofKey? : Key → Option ModTap
  | .homeN => some ⟨.homeN, .n, .leftAlt⟩
  | .homeS => some ⟨.homeS, .s, .leftGui⟩
  | .homeH => some ⟨.homeH, .h, .leftShift⟩
  | .homeD => some ⟨.homeD, .d, .leftCtrl⟩
  | .homeA => some ⟨.homeA, .a, .rightShift⟩
  | .homeE => some ⟨.homeE, .e, .rightGui⟩
  | .homeI => some ⟨.homeI, .i, .rightAlt⟩
  | .homeW => some ⟨.homeW, .w, .rightCtrl⟩
  | .homeComma => some ⟨.homeComma, .comma, .rightGui⟩
  | _ => none

/-- The set of the modifier of a hold. -/
def mask (modTap : ModTap) : ModMask :=
  .single modTap.modifier

theorem key_of_ofKey? {key : Key} {modTap : ModTap} (h : ofKey? key = some modTap) :
    modTap.key = key := by
  cases key <;> simp [ofKey?] at h <;> simp [← h]

end ModTap

end Keymap
