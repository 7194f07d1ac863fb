import Mathlib
import Keymap.Proofs.Settings.Check
import Keymap.Proofs.Trace

/-!
# The order of the chords

Chords are looked up in the order in which they were written. Of chords that pass the
check no two join the same keys, so each look-up has one answer at most and the order in
which they were written does not show.

- `ChordDetector.reorder`: the detector with its chords in another order. `signal_reorder`:
  it lets the same go on; `emissions_reorder`: in every run.
- `Engine.call_reorder`: an engine answers alike.
- `Settings.check_reorder`: **settings that pass still pass with their chords in another
  order, and detectors and engines that are made from them do the same in every run**.
-/

namespace Keymap

namespace ChordDetector

/-- The detector with other chords. -/
def reorder (detector : ChordDetector) (chords : List Chord) : ChordDetector :=
  { detector with chords := chords }

section

variable {detector : ChordDetector} {chords : List Chord}

theorem fires?_reorder (h : Chord.Unambiguous detector.chords)
    (same : chords.Perm detector.chords) (held event : KeyEvent) :
    (detector.reorder chords).fires? held event = detector.fires? held event := by
  have hfind : (detector.reorder chords).find? held.key event.key =
      detector.find? held.key event.key :=
    Chord.find?_joins_perm h same held.key event.key
  unfold fires?
  rw [hfind]
  rfl

theorem accept_reorder (same : chords.Perm detector.chords) (event : KeyEvent) :
    (detector.reorder chords).accept event =
      ((detector.accept event).1.reorder chords, (detector.accept event).2) := by
  have hmember : (detector.reorder chords).isMember event.key = detector.isMember event.key :=
    same.any_eq
  unfold accept
  rw [hmember]
  split <;> rfl

theorem feed_reorder (h : Chord.Unambiguous detector.chords)
    (same : chords.Perm detector.chords) (event : KeyEvent) :
    (detector.reorder chords).feed event =
      ((detector.feed event).1.reorder chords, (detector.feed event).2) := by
  have hfires := fires?_reorder h same
  have haccept := @accept_reorder detector chords same event
  unfold feed
  show (if event.isRelease && detector.swallowed.contains event.key then _ else _) = _
  split
  · rfl
  · rw [show (detector.reorder chords).held = detector.held from rfl]
    cases hheld : detector.held with
    | none => exact haccept
    | some held =>
      simp only [hfires]
      cases detector.fires? held event with
      | some chord => rfl
      | none =>
        have hfree := @accept_reorder { detector with held := none } chords same event
        exact congrArg (fun next => (next.1, held :: next.2)) hfree

theorem tick_reorder (detector : ChordDetector) (chords : List Chord) (now : Nat) :
    (detector.reorder chords).tick now =
      ((detector.tick now).1.reorder chords, (detector.tick now).2) := by
  unfold tick
  rw [show (detector.reorder chords).held = detector.held from rfl]
  cases detector.held with
  | none => rfl
  | some held =>
    have hterm : (detector.reorder chords).isPastTerm held now = detector.isPastTerm held now :=
      rfl
    simp only [hterm]
    cases detector.isPastTerm held now <;> rfl

/-- Chords in another order let the same go on. -/
theorem signal_reorder (h : Chord.Unambiguous detector.chords)
    (same : chords.Perm detector.chords) (call : Call) :
    (detector.reorder chords).signal call =
      ((detector.signal call).1.reorder chords, (detector.signal call).2) := by
  cases call with
  | event event =>
    simp only [signal, feed_reorder h same]
  | tick now =>
    simp only [signal, tick_reorder]
  | layer layer => rfl
  | capsWord active => rfl

/-- No call changes the chords. -/
theorem signal_chords (detector : ChordDetector) (call : Call) :
    (detector.signal call).1.chords = detector.chords := by
  cases call with
  | event event =>
    show (detector.feed event).1.chords = detector.chords
    have hfed := detector.fed_feed event
    generalize (detector.feed event).1 = next, (detector.feed event).2 = outs at hfed ⊢
    cases hfed <;> rfl
  | tick now =>
    show (detector.tick now).1.chords = detector.chords
    unfold tick
    split
    · split <;> rfl
    · rfl
  | layer layer => rfl
  | capsWord active => rfl

/-- **In every run, chords in another order fire alike and let the same go on.** -/
theorem emissions_reorder (h : Chord.Unambiguous detector.chords)
    (same : chords.Perm detector.chords) (fed : Nat) (calls : List Call) :
    (detector.reorder chords).emissions fed calls = detector.emissions fed calls := by
  induction calls generalizing detector fed with
  | nil => rfl
  | cons call rest ih =>
    have hfiring (fed : Nat) :
        (detector.reorder chords).firing? fed call = detector.firing? fed call := by
      cases call with
      | event event =>
        unfold firing?
        simp only [fires?_reorder h same]
        rfl
      | _ => rfl
    rw [emissions, emissions, hfiring, signal_reorder h same]
    rw [← signal_chords detector call] at h same
    rw [ih h same]

end

end ChordDetector

namespace Engine

/-- The engine with other chords. -/
def reorder (engine : Engine) (chords : List Chord) : Engine :=
  { engine with chords := engine.chords.reorder chords }

/-- An engine with its chords in another order answers alike. -/
theorem call_reorder {engine : Engine} {chords : List Chord}
    (h : Chord.Unambiguous engine.chords.chords) (same : chords.Perm engine.chords.chords)
    (call : Call) :
    (engine.reorder chords).call call =
      ((engine.call call).1.reorder chords, (engine.call call).2) := by
  obtain htime | ⟨layer, rfl⟩ | ⟨active, rfl⟩ := call.isSome_time?_or
  · rw [call_eq _ htime, call_eq _ htime]
    simp only [reorder, ChordDetector.signal_reorder h same]
  · rfl
  · rfl

end Engine

namespace Settings

/-- **The order of the chords does not matter.** If settings pass the check, they pass with
their chords in any other order. Chord detectors with the one list and the other and the
same term fire the same chords and let the same events go on at each call of every run, and
engines with the one and the other are seen to do the same. -/
theorem check_reorder {settings : Settings} {chords : List Chord}
    (valid : settings.check = .ok ()) (same : chords.Perm settings.combos) :
    let reordered : Settings := { settings with combos := chords }
    reordered.check = .ok () ∧
    (∀ term calls,
      ({ chords := chords, term := term } : ChordDetector).emissions 0 calls =
        ({ chords := settings.combos, term := term } : ChordDetector).emissions 0 calls) ∧
    ∀ calls,
      (Engine.new reordered.toEngineSettings).trace calls =
        (Engine.new settings.toEngineSettings).trace calls := by
  intro reordered
  obtain ⟨htimes, hformed, hdistinct⟩ := check_eq_ok_iff.mp valid
  refine ⟨check_eq_ok_iff.mpr ⟨fun duration => ?_, fun chord hmem => ?_, hdistinct.perm same⟩,
    fun term calls => ?_, fun calls => ?_⟩
  · cases duration with
    | tappingTerm => exact htimes .tappingTerm
    | comboTerm => exact htimes .comboTerm
    | sendDelay => exact htimes .sendDelay
  · exact hformed chord (same.mem_iff.mp hmem)
  · exact @ChordDetector.emissions_reorder { chords := settings.combos, term := term } chords
      hdistinct same 0 calls
  · have htrace := @Engine.trace_of_simulation
      (fun engine other => engine.chords.chords = settings.combos ∧
        other = engine.reorder chords)
      id ?_ ?_ (Engine.new settings.toEngineSettings)
      (Engine.new reordered.toEngineSettings) ⟨rfl, rfl⟩ calls
    · rwa [List.map_id] at htrace
    · rintro engine other ⟨-, rfl⟩
      rfl
    · rintro engine other call ⟨hchords, rfl⟩
      have hcall := @Engine.call_reorder engine chords (hchords ▸ hdistinct) (hchords ▸ same) call
      show _ ∧ ((engine.reorder chords).call call).2 = _
      rw [id, hcall]
      refine ⟨⟨?_, rfl⟩, rfl⟩
      rw [Engine.call_chords, ChordDetector.signal_chords, hchords]

/-- Three chords pass in two orders. `homeH`, which two of them share, and `homeA` make the
same one. -/
theorem check_three_chords :
    let settings : Settings :=
      { combos := [⟨.l, .m, .tab⟩, ⟨.t, .homeH, .enter⟩, ⟨.homeH, .homeA, .escape⟩] }
    let reordered : Settings :=
      { settings with
        combos := [⟨.homeH, .homeA, .escape⟩, ⟨.l, .m, .tab⟩, ⟨.t, .homeH, .enter⟩] }
    let calls : List Call := [.event (.press .homeA ∅ 0), .event (.press .homeH ∅ 20), .tick 60]
    settings.check = .ok () ∧ reordered.combos.Perm settings.combos ∧
      reordered.check = .ok () ∧
      ({ chords := reordered.combos } : ChordDetector).emissions 0 calls =
        ({ chords := settings.combos } : ChordDetector).emissions 0 calls ∧
      ((Engine.new settings.toEngineSettings).callAll calls).2.outputs =
        [.forward .escape .press ∅, .forward .escape .release ∅] :=
  have hchecked := @check_reorder
    { combos := [⟨.l, .m, .tab⟩, ⟨.t, .homeH, .enter⟩, ⟨.homeH, .homeA, .escape⟩] }
    [⟨.homeH, .homeA, .escape⟩, ⟨.l, .m, .tab⟩, ⟨.t, .homeH, .enter⟩] rfl (by decide)
  ⟨rfl, by decide, hchecked.1,
    hchecked.2.1 50 [.event (.press .homeA ∅ 0), .event (.press .homeH ∅ 20), .tick 60], by cbv⟩

end Settings

end Keymap
