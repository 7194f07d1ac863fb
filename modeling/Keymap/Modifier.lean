import Keymap.Key.Basic
import Keymap.Text.Case

/-!
# Modifiers

The eight modifier keys and the sets of them that are held.

- `Modifier`: a modifier, in the order of the bits of a keyboard report.
- `Modifier.key`, `Key.modifier?`: the key that holds a modifier, and back.
- `Modifier.ofAlias?`: the modifier that a short name stands for.
- `ModMask`: a set of modifiers, with `∪`, `∩`, `\` and `∅`.
- `ModMask.bits`, `ModMask.ofBits`: the set as a number below 256.
- `ModMask.anyShift`, `ModMask.hasNonShift`, `ModMask.shiftOrAltGrOnly`: what
  the trackers ask of a set.
-/

namespace Keymap

/-- A modifier, in the order of the bits of a keyboard report. -/
inductive Modifier where
  | leftCtrl | leftShift | leftAlt | leftGui
  | rightCtrl | rightShift | rightAlt | rightGui
  deriving DecidableEq

namespace Modifier

/-- Every modifier, lowest bit first. -/
def all : List Modifier :=
  [leftCtrl, leftShift, leftAlt, leftGui, rightCtrl, rightShift, rightAlt, rightGui]

theorem mem_all (m : Modifier) : m ∈ all := by
  cases m <;> decide

/-- The key that holds a modifier. -/
def key : Modifier → Key
  | leftCtrl => .leftCtrl
  | leftShift => .leftShift
  | leftAlt => .leftAlt
  | leftGui => .leftGui
  | rightCtrl => .rightCtrl
  | rightShift => .rightShift
  | rightAlt => .rightAlt
  | rightGui => .rightGui

/-- The modifier that an alias stands for, in any letter case. An alias without
a side means the left key. -/
def ofAlias? (text : String) : Option Modifier :=
  aliases.findSome? fun (names, m) =>
    if names.any (Text.sameName text) then some m else none
where
  /-- The aliases of each modifier. -/
  aliases : List (List String × Modifier) :=
    [(["s", "shift", "lshift", "ls"], leftShift),
      (["rs", "rshift"], rightShift),
      (["c", "ctrl", "control", "lctrl", "lc"], leftCtrl),
      (["rc", "rctrl"], rightCtrl),
      (["a", "alt", "lalt", "la", "opt"], leftAlt),
      (["ra", "ralt", "altgr"], rightAlt),
      (["g", "gui", "lgui", "super", "win", "cmd", "meta"], leftGui),
      (["rg", "rgui"], rightGui)]

end Modifier

/-- The modifier that a key holds while it is down. -/
def Key.modifier? : Key → Option Modifier
  | .leftCtrl => some .leftCtrl
  | .leftShift => some .leftShift
  | .leftAlt => some .leftAlt
  | .leftGui => some .leftGui
  | .rightCtrl => some .rightCtrl
  | .rightShift => some .rightShift
  | .rightAlt => some .rightAlt
  | .rightGui => some .rightGui
  | _ => none

@[simp] theorem Key.modifier?_key (m : Modifier) : m.key.modifier? = some m := by
  cases m <;> rfl

theorem Key.eq_key_of_modifier? {key : Key} {m : Modifier} (h : key.modifier? = some m) :
    key = m.key := by
  cases key <;> cases h <;> rfl

/-- A modifier is known by its key. -/
theorem Modifier.key_inj {m m' : Modifier} : m.key = m'.key ↔ m = m' := by
  constructor
  · intro h
    simpa using congrArg Key.modifier? h
  · rintro rfl
    rfl

/-- A set of held modifiers. -/
@[ext] structure ModMask where
  leftCtrl : Bool := false
  leftShift : Bool := false
  leftAlt : Bool := false
  leftGui : Bool := false
  rightCtrl : Bool := false
  rightShift : Bool := false
  rightAlt : Bool := false
  rightGui : Bool := false
  deriving DecidableEq

namespace ModMask

/-- Whether a modifier is in the set. -/
def holds (mods : ModMask) : Modifier → Bool
  | .leftCtrl => mods.leftCtrl
  | .leftShift => mods.leftShift
  | .leftAlt => mods.leftAlt
  | .leftGui => mods.leftGui
  | .rightCtrl => mods.rightCtrl
  | .rightShift => mods.rightShift
  | .rightAlt => mods.rightAlt
  | .rightGui => mods.rightGui

/-- The set of the modifiers that pass a test. -/
def ofTest (test : Modifier → Bool) : ModMask where
  leftCtrl := test .leftCtrl
  leftShift := test .leftShift
  leftAlt := test .leftAlt
  leftGui := test .leftGui
  rightCtrl := test .rightCtrl
  rightShift := test .rightShift
  rightAlt := test .rightAlt
  rightGui := test .rightGui

@[simp] theorem holds_ofTest (test : Modifier → Bool) (m : Modifier) :
    (ofTest test).holds m = test m := by
  cases m <;> rfl

/-- Two sets with the same members are equal. -/
theorem ext_holds {x y : ModMask} (h : ∀ m, x.holds m = y.holds m) : x = y := by
  ext1
  · exact h .leftCtrl
  · exact h .leftShift
  · exact h .leftAlt
  · exact h .leftGui
  · exact h .rightCtrl
  · exact h .rightShift
  · exact h .rightAlt
  · exact h .rightGui

instance : EmptyCollection ModMask where
  emptyCollection := {}

instance : Inhabited ModMask where
  default := ∅

/-- The set of one modifier. -/
def single (m : Modifier) : ModMask :=
  ofTest fun m' => m' == m

instance : Union ModMask where
  union x y := ofTest fun m => x.holds m || y.holds m

instance : Inter ModMask where
  inter x y := ofTest fun m => x.holds m && y.holds m

instance : SDiff ModMask where
  sdiff x y := ofTest fun m => x.holds m && !y.holds m

/-- The modifiers that are in exactly one of two sets. -/
def symmDiff (x y : ModMask) : ModMask :=
  ofTest fun m => x.holds m != y.holds m

/-- The modifiers that are not in the set. -/
def complement (mods : ModMask) : ModMask :=
  ofTest fun m => !mods.holds m

@[simp] theorem holds_empty (m : Modifier) : (∅ : ModMask).holds m = false := by
  cases m <;> rfl

@[simp] theorem holds_single (m m' : Modifier) : (single m).holds m' = (m' == m) :=
  holds_ofTest _ m'

@[simp] theorem holds_union (x y : ModMask) (m : Modifier) :
    (x ∪ y).holds m = (x.holds m || y.holds m) :=
  holds_ofTest _ m

@[simp] theorem holds_inter (x y : ModMask) (m : Modifier) :
    (x ∩ y).holds m = (x.holds m && y.holds m) :=
  holds_ofTest _ m

@[simp] theorem holds_sdiff (x y : ModMask) (m : Modifier) :
    (x \ y).holds m = (x.holds m && !y.holds m) :=
  holds_ofTest _ m

theorem union_assoc (x y z : ModMask) : x ∪ y ∪ z = x ∪ (y ∪ z) :=
  ext_holds fun m => by simp [Bool.or_assoc]

theorem union_comm (x y : ModMask) : x ∪ y = y ∪ x :=
  ext_holds fun m => by simp [Bool.or_comm]

@[simp] theorem union_self (x : ModMask) : x ∪ x = x :=
  ext_holds fun m => by simp

/-- Whether the set has no member. -/
def isEmpty (mods : ModMask) : Bool :=
  mods == ∅

/-- Whether every member of `other` is in the set. -/
def contains (mods other : ModMask) : Bool :=
  Modifier.all.all fun m => !other.holds m || mods.holds m

/-- Whether the two sets have a member in common. -/
def intersects (mods other : ModMask) : Bool :=
  Modifier.all.any fun m => mods.holds m && other.holds m

/-- Both shift keys. -/
def shifts : ModMask :=
  { leftShift := true, rightShift := true }

/-- Either shift key is held. -/
def anyShift (mods : ModMask) : Bool :=
  mods.leftShift || mods.rightShift

/-- A modifier other than shift is held: the key is a shortcut. -/
def hasNonShift (mods : ModMask) : Bool :=
  mods.leftCtrl || mods.leftAlt || mods.leftGui ||
    mods.rightCtrl || mods.rightAlt || mods.rightGui

/-- Nothing but shift and the right alt key (AltGr) is held. -/
def shiftOrAltGrOnly (mods : ModMask) : Bool :=
  !(mods.leftCtrl || mods.leftAlt || mods.leftGui || mods.rightCtrl || mods.rightGui)

/-- The keys of the members, lowest bit first. -/
def keys (mods : ModMask) : List Key :=
  (Modifier.all.filter mods.holds).map Modifier.key

/-- The set as a number: the sum of the bits of its members. -/
def bits (mods : ModMask) : Nat :=
  Modifier.all.foldr (fun m n => (mods.holds m).toNat + 2 * n) 0

/-- The set whose bits a number has. -/
def ofBits (n : Nat) : ModMask :=
  ofTest fun m => n.testBit (Modifier.all.idxOf m)

end ModMask

end Keymap
