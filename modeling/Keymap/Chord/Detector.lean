import Keymap.Chord.Basic
import Keymap.Event

/-!
# The chord detector

The detector holds the press of a chord member back until its partner goes
down or the chord term runs out. At most one press is held. A chord that fires
is replaced by a tap of its output, and the next release of each of its members
is swallowed.

- `ChordDetector`: the chords, the term, the held press and the keys whose
  release is still to be swallowed.
- `ChordDetector.feed`: an event goes in; the events that go on, in order.
- `ChordDetector.tick`: the held press goes on when its term has run out.
-/

namespace Keymap

/-- The state of chord detection. -/
structure ChordDetector where
  chords : List Chord := []
  /-- Milliseconds in which both keys have to go down. -/
  term : Nat := 50
  /-- The press that waits for a partner. -/
  held : Option KeyEvent := none
  /-- Members of fired chords whose release is still outstanding. -/
  swallowed : List Key := []
  deriving DecidableEq

namespace ChordDetector

/-- Whether a key belongs to some chord. -/
def isMember (detector : ChordDetector) (key : Key) : Bool :=
  detector.chords.any fun chord => chord.contains key

/-- The first chord that two keys make. -/
def find? (detector : ChordDetector) (one other : Key) : Option Chord :=
  detector.chords.find? fun chord => chord.joins one other

/-- Whether the term of a press has run out. -/
def isPastTerm (detector : ChordDetector) (press : KeyEvent) (now : Nat) : Bool :=
  detector.term ≤ now - press.time

/-- The chord that an event completes with the held press. -/
def fires? (detector : ChordDetector) (held event : KeyEvent) : Option Chord :=
  if event.isPress && !detector.isPastTerm held event.time then
    detector.find? held.key event.key
  else none

/-- Takes in an event while no press is held: a member's press is held back,
unless it is a shortcut. -/
def accept (detector : ChordDetector) (event : KeyEvent) : ChordDetector × List KeyEvent :=
  if event.isPress && !event.mods.hasNonShift && detector.isMember event.key then
    ({ detector with held := some event }, [])
  else (detector, [event])

/-- A chord fires: its output is tapped, and both releases will be swallowed. -/
def fire (detector : ChordDetector) (chord : Chord) (held event : KeyEvent) :
    ChordDetector × List KeyEvent :=
  ({ detector with held := none, swallowed := detector.swallowed ++ [held.key, event.key] },
    [.press chord.output event.mods event.time, .release chord.output event.mods event.time])

/-- Takes in one event and gives the events that go on, in order. -/
def feed (detector : ChordDetector) (event : KeyEvent) : ChordDetector × List KeyEvent :=
  if event.isRelease && detector.swallowed.contains event.key then
    ({ detector with swallowed := detector.swallowed.erase event.key }, [])
  else match detector.held with
    | none => detector.accept event
    | some held =>
      match detector.fires? held event with
      | some chord => detector.fire chord held event
      | none =>
        let (next, out) := { detector with held := none }.accept event
        (next, held :: out)

/-- Lets the held press go on if its term has run out. -/
def tick (detector : ChordDetector) (now : Nat) : ChordDetector × Option KeyEvent :=
  match detector.held with
  | some held =>
    if detector.isPastTerm held now then ({ detector with held := none }, some held)
    else (detector, none)
  | none => (detector, none)

end ChordDetector

end Keymap
