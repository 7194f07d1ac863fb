import Keymap.Event
import Keymap.Text.Quoted

/-!
# Outputs

What the keymap asks of the host.

- `Output`: send a transition on, tap a key, or type a text.
- `Output.describe`: an output as a line of text.
- `Output.throttle`: the outputs as a slow typist sends them, one character of
  a text at a time.
-/

namespace Keymap

/-- One request to the host. -/
inductive Output where
  /-- Send a transition on, with `extra` held for it alone, on top of what the
  user holds. -/
  | forward (key : Key) (action : Action) (extra : ModMask)
  /-- Press and release a key with exactly `mods` held. -/
  | tap (key : Key) (mods : ModMask)
  /-- Type a text, its letters in capitals if `shifted`. -/
  | text (chars : String) (shifted : Bool)
  deriving DecidableEq

namespace Output

/-- The output as a line of text. -/
def describe : Output → String
  | forward key action extra =>
    s!"forward {key.name} {action.name}" ++
      if extra.isEmpty then "" else s!" +{extra.describe}"
  | tap key mods => "tap " ++ (if mods.isEmpty then "" else mods.describe ++ "+") ++ key.name
  | text chars shifted => s!"text {Text.quoted chars}" ++ if shifted then " (shifted)" else ""

/-- One text for each character of a text; other outputs as they are. -/
def spell : Output → List Output
  | text chars shifted => chars.toList.map fun c => text (String.singleton c) shifted
  | output => [output]

/-- The outputs as they are sent with a pause of `delay` milliseconds between
the characters of a text: without a pause, a text is sent whole. -/
def throttle (delay : Nat) (outputs : List Output) : List Output :=
  if delay = 0 then outputs else outputs.flatMap spell

end Output

end Keymap
