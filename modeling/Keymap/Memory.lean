import Keymap.Key.Class
import Keymap.Modifier

/-!
# Last-key memory

The most recent key that a repeat-style trigger can act on, with the modifiers
held with it. Triggers never land here: a trigger has to see the key typed
before it.

- `Memory`: the slot.
- `Memory.accepts`: the keys that may replace the remembered one.
- `Memory.observe`: remembers a key if it may be remembered.
-/

namespace Keymap

/-- The remembered key and the modifiers held with it. -/
structure Memory where
  key : Key := .noKey
  mods : ModMask := ∅
  deriving DecidableEq

namespace Memory

/-- Whether a pressed key may replace the remembered one: modifiers, navigation,
deletion, triggers and mode switches leave memory as it is. -/
def accepts : Key → Bool
  | .noKey | .capsWordToggle | .sentenceCaseOn | .sentenceCaseToggle => false
  | key => !(key.isModifier || key.isNavigation || key.isDeletion ||
      key.isMagicTrigger || key.isAltRepeat)

/-- Remembers a key if it may be remembered, and says whether it was. -/
def observe (memory : Memory) (key : Key) (mods : ModMask) : Memory × Bool :=
  if accepts key then (⟨key, mods⟩, true) else (memory, false)

end Memory

end Keymap
