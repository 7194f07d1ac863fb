import Keymap.DualKey
import Keymap.Expansion.Tables
import Keymap.Key.Class

/-!
# Roles of keys

The handler that a key goes to.

- `Role`: the handlers.
- `Key.role`: the role of each key.
-/

namespace Keymap

/-- The handler that a key goes to. -/
inductive Role where
  /-- Turns caps word on or off and is consumed. -/
  | capsWordToggle
  /-- Turns sentence case on and is consumed. -/
  | sentenceCaseOn
  /-- Turns sentence case on or off and is consumed. -/
  | sentenceCaseToggle
  /-- Types an apostrophe or a pair of quotes. -/
  | quotePair
  /-- Types the expansion of the remembered key. -/
  | magic (side : MagicSide)
  /-- Types what a table has for the remembered key. -/
  | alternate (table : KeyTable String)
  /-- Types a fixed text. -/
  | word (entry : WordMacro)
  /-- Types one or two letters when it comes up. -/
  | dual (letters : DualKey)
  /-- Types `h` or `v`. -/
  | vowelSwitch (reversed : Bool)
  /-- Does nothing. -/
  | inert
  /-- Goes to the host. -/
  | plain

/-- The role of a key. -/
def Key.role (key : Key) : Role :=
  match key with
  | .capsWordToggle => .capsWordToggle
  | .sentenceCaseOn => .sentenceCaseOn
  | .sentenceCaseToggle => .sentenceCaseToggle
  | .quotePair => .quotePair
  | .hvSwitch => .vowelSwitch false
  | .hvSwitchReverse => .vowelSwitch true
  | _ =>
    match MagicSide.ofTrigger? key, alternateTable? key, wordTable.find? key,
      DualKey.ofKey? key with
    | some side, _, _, _ => .magic side
    | _, some table, _, _ => .alternate table
    | _, _, some entry, _ => .word entry
    | _, _, _, some letters => .dual letters
    | _, _, _, _ => if key.isSynthetic then .inert else .plain

end Keymap
