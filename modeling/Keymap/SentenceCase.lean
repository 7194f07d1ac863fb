import Keymap.Event

/-!
# Sentence case

The first letter after the end of a sentence is typed as a capital, once.

- `SentenceCase`: whether the tracker is on, and whether a capital is due.
- `SentenceCase.classify`: what an event means for the tracker.
- `SentenceCase.onEvent`: an event goes in; whether its letter is a capital.
- `SentenceCase.prime`: a capital becomes due without a terminator key.
-/

namespace Keymap

/-- Whether a capital is due. -/
inductive SentenceState where
  | idle
  /-- A terminator was typed: the next letter is a capital. -/
  | primed
  deriving DecidableEq

/-- The name of a state. -/
def SentenceState.name : SentenceState → String
  | idle => "idle"
  | primed => "primed"

/-- What an event means for the tracker. -/
inductive SentenceClass where
  | letter
  | terminator
  | space
  | quote
  /-- Releases and modifier keys. -/
  | ignore
  /-- Anything else ends the wait for a letter. -/
  | reset
  deriving DecidableEq

/-- The name of a class. -/
def SentenceClass.name : SentenceClass → String
  | letter => "letter"
  | terminator => "terminator"
  | space => "space"
  | quote => "quote"
  | ignore => "ignore"
  | reset => "reset"

/-- The sentence-case tracker. -/
structure SentenceCase where
  enabled : Bool := true
  state : SentenceState := .idle
  deriving DecidableEq

namespace SentenceCase

/-- Whether a capital is due. -/
def isPrimed (tracker : SentenceCase) : Bool :=
  tracker.state == .primed

/-- Turns the tracker on. -/
def enable (tracker : SentenceCase) : SentenceCase :=
  { tracker with enabled := true }

/-- Turns the tracker off; a capital that is due is dropped. -/
def disable (_tracker : SentenceCase) : SentenceCase :=
  { enabled := false, state := .idle }

/-- Turns the tracker off if it is on, and on if it is off. -/
def toggle (tracker : SentenceCase) : SentenceCase :=
  if tracker.enabled then tracker.disable else tracker.enable

/-- Makes a capital due, for a sentence whose end a macro has typed. -/
def prime (tracker : SentenceCase) : SentenceCase :=
  if tracker.enabled then { tracker with state := .primed } else tracker

/-- What an event means: a modifier other than shift and AltGr makes a shortcut
and resets; shifted `/` and `1` are `?` and `!`. -/
def classify (event : KeyEvent) : SentenceClass :=
  if event.isRelease || event.key.isModifier then .ignore
  else if !event.mods.shiftOrAltGrOnly then .reset
  else if event.key.isLetterClass then .letter
  else match event.key with
    | .dot | .exclaim | .question => .terminator
    | .slash | .digit1 => if event.mods.anyShift then .terminator else .reset
    | .space => .space
    | .apostrophe | .doubleQuote | .quotePair => .quote
    | _ => .reset

/-- Advances by one event, and says whether its letter is to be a capital. -/
def onEvent (tracker : SentenceCase) (event : KeyEvent) : SentenceCase × Bool :=
  if tracker.enabled then
    match classify event with
    | .ignore | .space | .quote => (tracker, false)
    | .terminator => ({ tracker with state := .primed }, false)
    | .letter => ({ tracker with state := .idle }, tracker.isPrimed)
    | .reset => ({ tracker with state := .idle }, false)
  else (tracker, false)

end SentenceCase

end Keymap
