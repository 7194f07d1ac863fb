import Keymap.Proofs.Chord.Feed
import Keymap.Proofs.Chord.Places
import Keymap.Proofs.Run

/-!
# Chords that fire

When a chord fires, and what it takes out of the stream: the presses of its two
keys and the release that follows each of them.

- `Firing`: a chord that fired, and the point of the input at which it did.
- `Taken`: the places in the input that chords which fired have taken.
- `ChordDetector.Fires`, `ChordDetector.Completes`: a chord fires, and what an
  event and the held press have to be for that.
- `ChordDetector.fires_iff`: **the one is exactly when the other is**.
- `ChordDetector.emissions`: what a run gives call by call, with the chord that
  fires in each.
-/

namespace Keymap

open Stroke

/-- A chord that fired. -/
structure Firing where
  /-- How many events had gone in, the one that completed it included. -/
  point : Nat
  held : KeyEvent
  event : KeyEvent
  chord : Chord

namespace Firing

/-- The two keys that were pressed. -/
def keys (firing : Firing) : List Key :=
  [firing.held.key, firing.event.key]

/-- What goes on in place of the two presses. -/
def tap (firing : Firing) : List KeyEvent :=
  [.press firing.chord.output firing.event.mods firing.event.time,
    .release firing.chord.output firing.event.mods firing.event.time]

end Firing

/-- The places that chords have taken: for each of their keys, the press that was
down when the chord fired, and the release after it. -/
def Taken (fired : List Firing) (strokes : List Stroke) (i : Nat) : Prop :=
  ∃ firing ∈ fired, ∃ key ∈ firing.keys, Ends strokes key firing.point i

instance (fired : List Firing) (strokes : List Stroke) : DecidablePred (Taken fired strokes) :=
  fun i => inferInstanceAs (Decidable (∃ firing ∈ fired, ∃ key ∈ firing.keys,
    Ends strokes key firing.point i))

/-- The strokes of some events. -/
abbrev KeyEvent.strokes (events : List KeyEvent) : List Stroke :=
  events.map KeyEvent.stroke

section

variable {fired : List Firing} {strokes : List Stroke}

/-- One more stroke does not change what is taken before it. -/
theorem taken_concat (stroke : Stroke) (hfired : ∀ firing ∈ fired, firing.point ≤ strokes.length)
    {i : Nat} (hi : i < strokes.length) :
    Taken fired (strokes ++ [stroke]) i ↔ Taken fired strokes i := by
  constructor
  · rintro ⟨firing, hmem, key, hkey, hends⟩
    exact ⟨firing, hmem, key, hkey, (ends_concat stroke (hfired firing hmem) hi).mp hends⟩
  · rintro ⟨firing, hmem, key, hkey, hends⟩
    exact ⟨firing, hmem, key, hkey, (ends_concat stroke (hfired firing hmem) hi).mpr hends⟩

/-- One more stroke is taken if it is the next up of a key of a chord. -/
theorem taken_last (stroke : Stroke) (hfired : ∀ firing ∈ fired, firing.point ≤ strokes.length) :
    Taken fired (strokes ++ [stroke]) strokes.length ↔
      ∃ firing ∈ fired, ∃ key ∈ firing.keys,
        stroke = up key ∧ up key ∉ strokes.drop firing.point := by
  constructor
  · rintro ⟨firing, hmem, key, hkey, hends⟩
    exact ⟨firing, hmem, key, hkey, (ends_last stroke (hfired firing hmem)).mp hends⟩
  · rintro ⟨firing, hmem, key, hkey, hup⟩
    exact ⟨firing, hmem, key, hkey, (ends_last stroke (hfired firing hmem)).mpr hup⟩

/-- A further chord takes places of its own. -/
theorem taken_append (firing : Firing) (i : Nat) :
    Taken (fired ++ [firing]) strokes i ↔
      Taken fired strokes i ∨ ∃ key ∈ firing.keys, Ends strokes key firing.point i := by
  simp only [Taken, List.mem_append, List.mem_singleton]
  constructor
  · rintro ⟨other, hold | rfl, htakes⟩
    · exact .inl ⟨other, hold, htakes⟩
    · exact .inr htakes
  · rintro (⟨other, hold, htakes⟩ | htakes)
    · exact ⟨other, .inl hold, htakes⟩
    · exact ⟨firing, .inr rfl, htakes⟩

end

namespace Chord

/-- The keys of the chord are these two, in either order. -/
def HasKeys (chord : Chord) (one other : Key) : Prop :=
  chord.first = one ∧ chord.second = other ∨ chord.first = other ∧ chord.second = one

instance (chord : Chord) (one other : Key) : Decidable (chord.HasKeys one other) :=
  inferInstanceAs (Decidable (_ ∧ _ ∨ _ ∧ _))

theorem joins_iff {chord : Chord} {one other : Key} :
    chord.joins one other = true ↔ one ≠ other ∧ chord.HasKeys one other := by
  simp only [joins, contains, HasKeys, Bool.and_eq_true, Bool.or_eq_true, bne_iff_ne, beq_iff_eq]
  constructor
  · rintro ⟨⟨hne, rfl | rfl⟩, rfl | rfl⟩
    · exact absurd rfl hne
    · exact ⟨hne, .inl ⟨rfl, rfl⟩⟩
    · exact ⟨hne, .inr ⟨rfl, rfl⟩⟩
    · exact absurd rfl hne
  · rintro ⟨hne, ⟨rfl, rfl⟩ | ⟨rfl, rfl⟩⟩
    · exact ⟨⟨hne, .inl rfl⟩, .inr rfl⟩
    · exact ⟨⟨hne, .inr rfl⟩, .inl rfl⟩

end Chord

namespace ChordDetector

/-- A chord fires: the held press and the event are gone, the releases of both keys
will be swallowed, and `output` is tapped. -/
structure Fires (detector : ChordDetector) (press event : KeyEvent) (output : Key) : Prop where
  held : detector.held = some press
  feed : detector.feed event =
    ({ detector with held := none, swallowed := detector.swallowed ++ [press.key, event.key] },
      [.press output event.mods event.time, .release output event.mods event.time])

/-- The event is the press of another key within the term of the held press, and
the chord is the first that has these two keys. -/
structure Completes (detector : ChordDetector) (press event : KeyEvent) (chord : Chord) :
    Prop where
  held : detector.held = some press
  down : event.action = .press
  other : press.key ≠ event.key
  inTerm : event.time - press.time < detector.term
  first : detector.chords.find? (·.HasKeys press.key event.key) = some chord

/-- The chord that a call completes; `fed` events have gone in with it. -/
def firing? (detector : ChordDetector) (fed : Nat) : Call → Option Firing
  | .event event => do
    let held ← detector.held
    let chord ← detector.fires? held event
    return ⟨fed, held, event, chord⟩
  | .tick _ | .layer _ | .capsWord _ => none

/-- What a run gives call by call, with the chord that fires in each; `fed` events
have gone in before. -/
def emissions (detector : ChordDetector) (fed : Nat) :
    List Call → List (Option Firing × List KeyEvent)
  | [] => []
  | call :: rest =>
    let fed := fed + (Call.events [call]).length
    (detector.firing? fed call, Signal.events (detector.signal call).2) ::
      (detector.signal call).1.emissions fed rest

variable {detector : ChordDetector} {event : KeyEvent}

/-- For two different keys, the first chord that joins them is the first that has them. -/
theorem find?_eq {one other : Key} (hne : one ≠ other) :
    detector.find? one other = detector.chords.find? (·.HasKeys one other) := by
  rw [find?]
  refine congrArg (List.find? · detector.chords) (funext fun chord => ?_)
  rw [Bool.eq_iff_iff, Chord.joins_iff]
  simp [hne]

theorem fires?_eq_some_iff {press : KeyEvent} {chord : Chord}
    (hheld : detector.held = some press) :
    detector.fires? press event = some chord ↔ Completes detector press event chord := by
  rw [fires?]
  constructor
  · intro h
    split at h
    · next hguard =>
      simp only [Bool.and_eq_true, KeyEvent.isPress, beq_iff_eq, isPastTerm,
        Bool.not_eq_true', decide_eq_false_iff_not, Nat.not_le] at hguard
      obtain ⟨hdown, hterm⟩ := hguard
      have hjoins : chord.joins press.key event.key = true := by
        simpa using List.find?_some h
      have hne := (Chord.joins_iff.mp hjoins).1
      exact ⟨hheld, hdown, hne, hterm, find?_eq hne ▸ h⟩
    · cases h
  · rintro ⟨-, hdown, hne, hterm, hfirst⟩
    have hguard : (event.isPress && !detector.isPastTerm press event.time) = true := by
      simp [KeyEvent.isPress, hdown, isPastTerm, hterm]
    rw [if_pos hguard, find?_eq hne, hfirst]

/-- Only a chord that fires adds to what is to be swallowed. -/
theorem feed_swallowed (detector : ChordDetector) (event : KeyEvent) :
    (detector.feed event).1.swallowed.length ≤ detector.swallowed.length ∨
      ∃ press chord, detector.held = some press ∧ detector.fires? press event = some chord ∧
        detector.feed event = detector.fire chord press event := by
  have hfed := detector.fed_feed event
  rw [show detector.feed event = ((detector.feed event).1, (detector.feed event).2) from rfl]
  generalize (detector.feed event).1 = next, (detector.feed event).2 = outs at hfed ⊢
  cases hfed with
  | swallow hup hmem => exact .inl (List.erase_sublist.length_le)
  | wait hdown hnone => exact .inl (Nat.le_refl _)
  | pass hfree hnone => exact .inl (Nat.le_refl _)
  | fire chord hheld hdown hfires => exact .inr ⟨_, chord, hheld, hfires, rfl⟩

/-- **A chord fires exactly when the event completes it with the held press.** -/
theorem fires_iff {press : KeyEvent} {output : Key} :
    Fires detector press event output ↔
      ∃ chord, Completes detector press event chord ∧ chord.output = output := by
  constructor
  · rintro ⟨hheld, hfeed⟩
    rcases detector.feed_swallowed event with hle | ⟨press', chord, hheld', hsome, hfire⟩
    · simp only [hfeed, List.length_append, List.length_cons] at hle
      omega
    · obtain rfl := Option.some.inj (hheld.symm.trans hheld')
      rw [hfeed, fire] at hfire
      obtain ⟨-, houts⟩ := Prod.mk.inj hfire
      refine ⟨chord, (fires?_eq_some_iff hheld).mp hsome, ?_⟩
      exact (congrArg KeyEvent.key (List.cons.inj houts).1).symm
  · rintro ⟨chord, hcompletes, rfl⟩
    have hfires := (fires?_eq_some_iff hcompletes.held).mpr hcompletes
    have hpress : (event.isRelease && detector.swallowed.contains event.key) = false := by
      simp [KeyEvent.isRelease, hcompletes.down]
    refine ⟨hcompletes.held, ?_⟩
    rw [ChordDetector.feed, hpress, hcompletes.held]
    simp only [Bool.false_eq_true, if_false, hfires]
    rfl

/-- What `firing?` tells of is a chord that the event completes. -/
theorem firing?_eq_some_iff {fed : Nat} {firing : Firing} :
    detector.firing? fed (.event event) = some firing ↔
      firing.point = fed ∧ firing.event = event ∧
        Completes detector firing.held event firing.chord := by
  simp only [firing?, Option.bind_eq_bind, Option.bind_eq_some_iff]
  constructor
  · rintro ⟨press, hheld, chord, hfires, hfiring⟩
    obtain rfl := Option.some.inj hfiring
    exact ⟨rfl, rfl, (fires?_eq_some_iff hheld).mp hfires⟩
  · rintro ⟨rfl, rfl, hcompletes⟩
    exact ⟨firing.held, hcompletes.held, firing.chord,
      (fires?_eq_some_iff hcompletes.held).mpr hcompletes, rfl⟩

/-- The chord that fires in a call gives its tap. -/
theorem emitted_of_firing? {call : Call} {fed : Nat} {firing : Firing}
    (h : detector.firing? fed call = some firing) :
    Signal.events (detector.signal call).2 = firing.tap := by
  cases call with
  | event event =>
    obtain ⟨-, rfl, hcompletes⟩ := firing?_eq_some_iff.mp h
    have hfeed := (fires_iff.mpr ⟨firing.chord, hcompletes, rfl⟩).feed
    rw [signal, hfeed]
    rfl
  | tick now => cases h
  | layer layer => cases h
  | capsWord active => cases h

end ChordDetector

end Keymap
