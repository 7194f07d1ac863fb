import Keymap.Event
import Keymap.Output.Basic
import Keymap.Text.Alphabetic

/-!
# Inside a word or not

Whether the cursor stands inside a word decides what the quote-pair key types:
an apostrophe inside a word, a pair of double quotes elsewhere.

- `WordPosition`: the tracker.
- `WordPosition.observe`, `WordPosition.observeText`: a key press and a typed
  text move it.
- `WordPosition.quote`: what the quote-pair key types.
-/

namespace Keymap

/-- Whether the cursor stands inside a word. -/
structure WordPosition where
  withinWord : Bool := false
  deriving DecidableEq

namespace WordPosition

/-- A press of a letter enters a word and that of another key leaves it;
releases and modifier keys do neither. -/
def observe (position : WordPosition) (event : KeyEvent) : WordPosition :=
  if event.isPress && !event.key.isModifier then ⟨event.key.isLetterClass⟩ else position

/-- After a typed text the cursor is inside a word if the text ends in a letter. -/
def observeText (position : WordPosition) (text : String) : WordPosition :=
  match text.toList.getLast? with
  | some c => ⟨Text.isAlphabetic c⟩
  | none => position

/-- What the quote-pair key types. The cursor is left between the quotes. -/
def quote (position : WordPosition) : List Output :=
  if position.withinWord then [.tap .apostrophe ∅]
  else [.text "\"\"" false, .tap .left ∅]

end WordPosition

end Keymap
