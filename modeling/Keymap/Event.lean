import Keymap.Key.Name
import Keymap.Key.Class
import Keymap.Modifier

/-!
# Key events

One transition of a key. The source debounces and never repeats, so a key goes
down or comes back up.

- `Action`: press or release.
- `KeyEvent`: a key, what it did, the modifiers held when it did so (its own
  bit not counted), and the time in milliseconds of a clock that never runs
  backwards.
- `KeyEvent.withMods`: the event with more modifiers held.
-/

namespace Keymap

/-- What a key did. -/
inductive Action where
  | press
  | release
  deriving DecidableEq

/-- The word for an action. -/
def Action.name : Action → String
  | press => "press"
  | release => "release"

/-- The set as text: the names of its keys joined by `+`, or `none`. -/
def ModMask.describe (mods : ModMask) : String :=
  if mods.isEmpty then "none" else "+".intercalate (mods.keys.map Key.name)

/-- One key transition. -/
structure KeyEvent where
  key : Key
  action : Action
  /-- The modifiers held, without the bit of the key itself. -/
  mods : ModMask
  /-- Milliseconds. -/
  time : Nat
  deriving DecidableEq

namespace KeyEvent

/-- The key goes down. -/
def press (key : Key) (mods : ModMask) (time : Nat) : KeyEvent :=
  ⟨key, .press, mods, time⟩

/-- The key comes up. -/
def release (key : Key) (mods : ModMask) (time : Nat) : KeyEvent :=
  ⟨key, .release, mods, time⟩

/-- Whether the key went down. -/
def isPress (event : KeyEvent) : Bool :=
  event.action == .press

/-- Whether the key came up. -/
def isRelease (event : KeyEvent) : Bool :=
  event.action == .release

/-- The event with further modifiers held. -/
def withMods (event : KeyEvent) (mods : ModMask) : KeyEvent :=
  { event with mods := event.mods ∪ mods }

/-- The event as text. -/
def describe (event : KeyEvent) : String :=
  s!"{event.key.name} {event.action.name} (mods={event.mods.describe}, t={event.time}ms)"

end KeyEvent

end Keymap
