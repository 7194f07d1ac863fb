import Keymap.Engine
import Keymap.Key.Class
import Keymap.Key.Name

/-!
# Settings

What a user can set, and which settings make sense: every time lies in its
range, and each chord has two different keys, neither of them a modifier, stands
for something, and shares its pair of keys with no other chord.

- `Settings`: the settings of an engine and the pause between typed characters.
- `Duration`: the times among them, with their ranges.
- `Settings.Problem`: what can be wrong, with its wording.
- `Settings.check`: the first problem of some settings, if they have one.
-/

namespace Keymap

/-- What a user can set. -/
structure Settings extends EngineSettings where
  /-- Milliseconds between the characters of a typed text. -/
  sendDelay : Nat := 0
  deriving DecidableEq

/-- A time that a user can set. -/
inductive Duration where
  | tappingTerm
  | comboTerm
  | sendDelay
  deriving DecidableEq

namespace Duration

/-- The name under which a user sets it. -/
def name : Duration → String
  | tappingTerm => "tapping_term_ms"
  | comboTerm => "combo_term_ms"
  | sendDelay => "send_string_delay_ms"

/-- The least value, in milliseconds. -/
def least : Duration → Nat
  | tappingTerm => 1
  | comboTerm => 1
  | sendDelay => 0

/-- The greatest value, in milliseconds. -/
def greatest : Duration → Nat
  | tappingTerm => 2000
  | comboTerm => 500
  | sendDelay => 100

/-- Its value in some settings. -/
def of (settings : Settings) : Duration → Nat
  | tappingTerm => settings.tappingTerm
  | comboTerm => settings.comboTerm
  | sendDelay => settings.sendDelay

end Duration

namespace Settings

/-- What can be wrong with a chord. Chords are numbered from zero. -/
inductive ChordFault where
  | sameKeyTwice (index : Nat) (key : Key)
  | modifierMember (index : Nat)
  | noOutput (index : Nat)
  | definedTwice (first second : Key)
  /-- A chord was written with some other number of keys than two. -/
  | keyCount (count : Nat)
  deriving DecidableEq

/-- The wording of a fault. -/
def ChordFault.message : ChordFault → String
  | sameKeyTwice index key => s!"combo {index} uses {key.name} twice"
  | modifierMember index => s!"combo {index} uses a modifier key"
  | noOutput index => s!"combo {index} has no output"
  | definedTwice first second => s!"{first.name}+{second.name} is defined twice"
  | keyCount count => s!"a combo needs exactly two keys, got {count}"

/-- What can be wrong with settings. -/
inductive Problem where
  | outOfRange (duration : Duration) (value : Nat)
  | chord (fault : ChordFault)
  | unknownKey (name : String)
  deriving DecidableEq

/-- The wording of a problem. -/
def Problem.message : Problem → String
  | outOfRange duration value =>
    s!"Timeout value out of range: {duration.name} must be " ++
      s!"{duration.least}-{duration.greatest}ms, got {value}"
  | chord fault => s!"Invalid combo: {fault.message}"
  | unknownKey name => s!"Invalid key: {name}"

/-! ## Checks -/

/-- The problem with a time, if it lies outside its range. -/
def checkDuration (settings : Settings) (duration : Duration) : Except Problem Unit :=
  let value := duration.of settings
  if duration.least ≤ value ∧ value ≤ duration.greatest then .ok ()
  else .error (.outOfRange duration value)

/-- The first fault of the chord with a number, given the chords before it. -/
def chordFault? (earlier : List Chord) (index : Nat) (chord : Chord) : Option ChordFault :=
  if chord.first = chord.second then some (.sameKeyTwice index chord.first)
  else if chord.first.isModifier || chord.second.isModifier then some (.modifierMember index)
  else if chord.output = .noKey then some (.noOutput index)
  else if earlier.any fun other => other.contains chord.first && other.contains chord.second then
    some (.definedTwice chord.first chord.second)
  else none

/-- The first fault among chords, given the chords before them. -/
def checkChords (earlier : List Chord) : List Chord → Except Problem Unit
  | [] => .ok ()
  | chord :: rest =>
    match chordFault? earlier earlier.length chord with
    | some fault => .error (.chord fault)
    | none => checkChords (earlier ++ [chord]) rest

/-- The first problem of some settings: the times come first, then the chords in
order. -/
def check (settings : Settings) : Except Problem Unit := do
  settings.checkDuration .tappingTerm
  settings.checkDuration .comboTerm
  settings.checkDuration .sendDelay
  checkChords [] settings.combos

end Settings

end Keymap
