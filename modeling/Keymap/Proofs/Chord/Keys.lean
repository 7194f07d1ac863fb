import Keymap.Proofs.Chord.Feed
import Keymap.Proofs.Run

/-!
# The keys that leave the chord detector

The detector makes up no key but the outputs of its chords.

- `ChordDetector.Gives`: the invariant. The chords and what is held back give nothing
  but keys of one kind.
- `ChordDetector.signalAll_keys`: **a key that leaves the detector came in or is the
  output of a chord**.
- `ChordDetector.SwallowsMembers`: only releases of chord members are swallowed, so a key
  that is no member goes on at once while nothing is held back.
-/

namespace Keymap

namespace ChordDetector

variable {detector : ChordDetector} {p : Key → Prop}

/-- The keys that may leave the detector: those of the outputs of its chords, and the
one that is held back. -/
structure Gives (detector : ChordDetector) (p : Key → Prop) : Prop where
  outputs : ∀ chord ∈ detector.chords, p chord.output
  held : ∀ press ∈ detector.held, p press.key

/-- A chord that fires is one of the chords. -/
theorem mem_of_fires? {press event : KeyEvent} {chord : Chord}
    (h : detector.fires? press event = some chord) : chord ∈ detector.chords := by
  unfold fires? at h
  split at h
  · exact List.mem_of_find?_eq_some h
  · cases h

theorem Gives.feed (h : Gives detector p) {event : KeyEvent} (hevent : p event.key) :
    Gives (detector.feed event).1 p ∧ ∀ out ∈ (detector.feed event).2, p out.key := by
  have hheld : ∀ out ∈ detector.held.toList, p out.key :=
    fun out hmem => h.held out (Option.mem_toList.mp hmem)
  have hfed := detector.fed_feed event
  generalize (detector.feed event).1 = next, (detector.feed event).2 = outs at hfed ⊢
  cases hfed with
  | swallow hup hmem => exact ⟨⟨h.outputs, h.held⟩, by simp⟩
  | wait hdown hnone =>
    refine ⟨⟨h.outputs, fun press hpress => ?_⟩, hheld⟩
    rwa [← Option.some.inj hpress]
  | pass hfree hnone =>
    refine ⟨⟨h.outputs, by simp⟩, fun out hmem => ?_⟩
    rcases List.mem_append.mp hmem with hold | hnew
    · exact hheld out hold
    · rwa [List.mem_singleton.mp hnew]
  | fire chord hpress hdown hfires =>
    refine ⟨⟨h.outputs, by simp⟩, fun out hmem => ?_⟩
    have hkey : out.key = chord.output := by
      rcases List.mem_cons.mp hmem with rfl | hmem
      · rfl
      · rw [List.mem_singleton.mp hmem]
        rfl
    rw [hkey]
    exact h.outputs chord (mem_of_fires? hfires)

theorem Gives.signal (h : Gives detector p) {call : Call}
    (hcall : ∀ event ∈ Call.events [call], p event.key) :
    Gives (detector.signal call).1 p ∧
      ∀ out ∈ Signal.events (detector.signal call).2, p out.key := by
  cases call with
  | event event =>
    show Gives (detector.feed event).1 p ∧
      ∀ out ∈ Signal.events ((detector.feed event).2.map .event), p out.key
    rw [Signal.events_map_event]
    exact h.feed (hcall event (by simp))
  | tick now =>
    simp only [ChordDetector.signal, ChordDetector.tick]
    split
    · next press hpress =>
      split
      · exact ⟨⟨h.outputs, by simp⟩, by simpa using h.held press hpress⟩
      · exact ⟨h, by simp⟩
    · exact ⟨h, by simp⟩
  | layer layer => exact ⟨h, by simp [ChordDetector.signal]⟩
  | capsWord active => exact ⟨h, by simp [ChordDetector.signal]⟩

/-- **A key that leaves the detector came in or is the output of a chord.** -/
theorem signalAll_keys (h : Gives detector p) {calls : List Call}
    (hcalls : ∀ event ∈ Call.events calls, p event.key) :
    ∀ out ∈ Signal.events (detector.signalAll calls).2, p out.key := by
  induction calls generalizing detector with
  | nil => simp [ChordDetector.signalAll]
  | cons call rest ih =>
    rw [Call.events_cons] at hcalls
    obtain ⟨hcall, hrest⟩ := List.forall_mem_append.mp hcalls
    obtain ⟨hnext, hnow⟩ := h.signal hcall
    simp only [ChordDetector.signalAll, Signal.events_append]
    exact List.forall_mem_append.mpr ⟨hnow, ih hnext hrest⟩

/-! ## Keys that are swallowed -/

/-- Only keys of chords are swallowed. -/
def SwallowsMembers (detector : ChordDetector) : Prop :=
  ∀ key ∈ detector.swallowed, detector.isMember key = true

/-- The two keys that make a chord fire are members of it. -/
theorem isMember_of_fires? {press event : KeyEvent} {chord : Chord}
    (h : detector.fires? press event = some chord) :
    detector.isMember press.key = true ∧ detector.isMember event.key = true := by
  have hchord := mem_of_fires? h
  have hjoins : chord.joins press.key event.key = true := by
    unfold fires? find? at h
    split at h
    · have hfound := List.find?_some h
      exact hfound
    · cases h
  simp only [Chord.joins, Bool.and_eq_true] at hjoins
  obtain ⟨⟨-, hpress⟩, hevent⟩ := hjoins
  exact ⟨List.any_eq_true.mpr ⟨chord, hchord, hpress⟩,
    List.any_eq_true.mpr ⟨chord, hchord, hevent⟩⟩

namespace SwallowsMembers

theorem feed (h : SwallowsMembers detector) (event : KeyEvent) :
    SwallowsMembers (detector.feed event).1 := by
  have hfed := detector.fed_feed event
  generalize (detector.feed event).1 = next, (detector.feed event).2 = outs at hfed ⊢
  cases hfed with
  | swallow hup hmem => exact fun key hkey => h key (List.mem_of_mem_erase hkey)
  | wait hdown hnone => exact h
  | pass hfree hnone => exact h
  | @fire press chord hheld hdown hfires =>
    obtain ⟨hpress, hevent⟩ := isMember_of_fires? hfires
    intro key hkey
    rcases List.mem_append.mp hkey with hold | hnew
    · exact h key hold
    · rcases List.mem_cons.mp hnew with rfl | hsecond
      · exact hpress
      · rw [List.mem_singleton.mp hsecond]
        exact hevent

theorem signal (h : SwallowsMembers detector) (call : Call) :
    SwallowsMembers (detector.signal call).1 := by
  cases call with
  | event event => exact h.feed event
  | tick now =>
    show SwallowsMembers (detector.tick now).1
    unfold ChordDetector.tick
    split
    · split
      · exact h
      · exact h
    · exact h
  | layer layer => exact h
  | capsWord active => exact h

theorem signalAll (h : SwallowsMembers detector) (calls : List Call) :
    SwallowsMembers (detector.signalAll calls).1 := by
  induction calls generalizing detector with
  | nil => exact h
  | cons call rest ih => exact ih (h.signal call)

/-- While nothing is held back, the event of a key that is no member goes on. -/
theorem feed_of_not_member (h : SwallowsMembers detector) (hheld : detector.held = none)
    {event : KeyEvent} (hkey : detector.isMember event.key = false) :
    detector.feed event = (detector, [event]) := by
  have hfree : event.key ∉ detector.swallowed := by
    intro hmem
    rw [h event.key hmem] at hkey
    cases hkey
  simp [ChordDetector.feed, accept, hfree, hheld, hkey]

end SwallowsMembers

end ChordDetector

end Keymap
