import Keymap.HoldTimer

/-!
# Dual keys

A dual key types two letters when it is tapped and only the first when held.

- `DualKey.ofKey?`: the letters of a dual key.
- `DualKey.letters`: what a tap or a hold types.
-/

namespace Keymap

/-- The letters of a dual key. -/
structure DualKey where
  first : Key
  second : Key
  deriving DecidableEq

namespace DualKey

/-- The letters of a key, if it is a dual key. -/
def ofKey? : Key → Option DualKey
  | .qu => some ⟨.q, .u⟩
  | _ => none

/-- The letters that a tap or a hold types, in order. -/
def letters (dual : DualKey) : TapHold → List Key
  | .tap => [dual.first, dual.second]
  | .hold => [dual.first]

end DualKey

end Keymap
