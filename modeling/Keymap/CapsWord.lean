import Keymap.Event

/-!
# Caps word

A gate that shifts every letter until a key ends the word.

- `CapsWord`: whether the gate is on.
- `CapsWord.keepsAlive`: the keys that do not end the word.
- `CapsWord.onPress`: what the gate decides for a press.
-/

namespace Keymap

/-- What the gate decides for a press. -/
inductive CapsWordVerdict where
  /-- The gate is off. -/
  | inactive
  /-- The gate stays on; `shift` asks for a shift on what the key types. -/
  | goesOn (shift : Bool)
  /-- The press turned the gate off; the key is handled as usual. -/
  | ended
  deriving DecidableEq

/-- The caps word gate. -/
structure CapsWord where
  active : Bool := false
  deriving DecidableEq

namespace CapsWord

/-- Turns the gate on, and says whether that changed anything. -/
def activate (gate : CapsWord) : CapsWord × Bool :=
  (⟨true⟩, !gate.active)

/-- Turns the gate off, and says whether that changed anything. -/
def deactivate (gate : CapsWord) : CapsWord × Bool :=
  (⟨false⟩, gate.active)

/-- Turns the gate off if it is on, and on if it is off. -/
def toggle (gate : CapsWord) : CapsWord :=
  ⟨!gate.active⟩

/-- The keys that do not end the word. -/
def keepsAlive (key : Key) : Bool :=
  key.isLetterClass || key.isDigit ||
    match key with
    | .backspace | .delete | .underscore | .colon => true
    | _ => false

/-- Takes a press through the gate: a modifier key never ends the word, a
shortcut always does. -/
def onPress (gate : CapsWord) (event : KeyEvent) : CapsWord × CapsWordVerdict :=
  if !gate.active then (gate, .inactive)
  else if event.key.isModifier then (gate, .goesOn false)
  else if event.mods.hasNonShift || !keepsAlive event.key then (⟨false⟩, .ended)
  else (gate, .goesOn event.key.isLetterClass)

end CapsWord

end Keymap
