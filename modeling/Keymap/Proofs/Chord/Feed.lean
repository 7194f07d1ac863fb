import Keymap.Chord.Detector
import Keymap.Proofs.Strokes

/-!
# What the chord detector does with an event

- `ChordDetector.Fed`: the four things that can happen to an event.
- `ChordDetector.Recent`: only a press is held back, and from no later than now.
- `feed_recent`, `tick_recent`: what goes on is no later than now, and a release
  goes on at once.
- `feed_of_isPastTerm`: a held press whose term has run out only goes first.
-/

namespace Keymap

namespace ChordDetector

/-- What happens to an event: the detector after it and what goes on. -/
inductive Fed (detector : ChordDetector) (event : KeyEvent) :
    ChordDetector → List KeyEvent → Prop where
  /-- The release of a member of a chord that fired is swallowed. -/
  | swallow (hup : event.action = .release) (hmem : event.key ∈ detector.swallowed) :
      Fed detector event
        { detector with swallowed := detector.swallowed.erase event.key } []
  /-- A press is held back, and one that was held back before goes on. -/
  | wait (hdown : event.action = .press)
      (hnone : ∀ held ∈ detector.held, detector.fires? held event = none) :
      Fed detector event { detector with held := some event } detector.held.toList
  /-- The event goes on, behind a press that was held back. -/
  | pass (hfree : event.action = .release → event.key ∉ detector.swallowed)
      (hnone : ∀ held ∈ detector.held, detector.fires? held event = none) :
      Fed detector event { detector with held := none } (detector.held.toList ++ [event])
  /-- A chord fires. -/
  | fire {held : KeyEvent} (chord : Chord) (hheld : detector.held = some held)
      (hdown : event.action = .press) (hfires : detector.fires? held event = some chord) :
      Fed detector event
        { detector with held := none, swallowed := detector.swallowed ++ [held.key, event.key] }
        [.press chord.output event.mods event.time, .release chord.output event.mods event.time]

variable {detector : ChordDetector} {event : KeyEvent}

theorem bare_eq (hheld : detector.held = none) : { detector with held := none } = detector := by
  cases detector
  cases hheld
  rfl

theorem fed_accept (hfree : event.action = .release → event.key ∉ detector.swallowed)
    (hnone : ∀ held ∈ detector.held, detector.fires? held event = none) :
    Fed detector event (({ detector with held := none } : ChordDetector).accept event).1
      (detector.held.toList ++
        (({ detector with held := none } : ChordDetector).accept event).2) := by
  rw [accept]
  split
  · next hpress =>
    simp only [Bool.and_eq_true] at hpress
    rw [List.append_nil]
    exact .wait (by simpa [KeyEvent.isPress] using hpress.1.1) hnone
  · exact .pass hfree hnone

theorem press_of_fires? {held : KeyEvent} {chord : Chord}
    (h : detector.fires? held event = some chord) : event.action = .press := by
  rw [fires?] at h
  split at h
  · next hpress =>
    simp only [Bool.and_eq_true] at hpress
    simpa [KeyEvent.isPress] using hpress.1
  · cases h

/-- **Every event meets one of the four.** -/
theorem fed_feed (detector : ChordDetector) (event : KeyEvent) :
    Fed detector event (detector.feed event).1 (detector.feed event).2 := by
  rw [feed]
  split
  · next hswallow =>
    obtain ⟨hup, hmem⟩ : event.action = .release ∧ event.key ∈ detector.swallowed := by
      simpa [KeyEvent.isRelease] using hswallow
    exact .swallow hup hmem
  · next hswallow =>
    have hfree : event.action = .release → event.key ∉ detector.swallowed := by
      simpa [KeyEvent.isRelease] using hswallow
    split
    · next hheld =>
      have hlet := fed_accept hfree (by simp [hheld])
      rw [bare_eq hheld, hheld] at hlet
      exact hlet
    · next held hheld =>
      split
      · next chord hfires => exact .fire chord hheld (press_of_fires? hfires) hfires
      · next hnone =>
        have hlet := fed_accept hfree (by simp [hheld, hnone])
        rw [hheld] at hlet
        exact hlet

/-! ## Times -/

/-- Only a press is held back, and from no later than `now`. -/
def Recent (detector : ChordDetector) (now : Nat) : Prop :=
  ∀ press ∈ detector.held, press.action = .press ∧ press.time ≤ now

theorem Recent.mono {now later : Nat} (h : Recent detector now) (hle : now ≤ later) :
    Recent detector later :=
  fun press hmem => ⟨(h press hmem).1, Nat.le_trans (h press hmem).2 hle⟩

theorem Recent.of_held_eq_none (hheld : detector.held = none) (now : Nat) :
    Recent detector now :=
  fun press hmem => by simp [hheld] at hmem

/-- What goes on after an event is no later than it, and a release is as late. -/
theorem feed_recent (h : Recent detector event.time) :
    Recent (detector.feed event).1 event.time ∧
      ∀ out ∈ (detector.feed event).2,
        out.time ≤ event.time ∧ (out.action = .release → out.time = event.time) := by
  -- what was held back is a press, so it need not be as late as the event
  have hheld : ∀ out ∈ detector.held.toList,
      out.time ≤ event.time ∧ (out.action = .release → out.time = event.time) := by
    intro out hmem
    obtain ⟨hdown, htime⟩ := h out (Option.mem_toList.mp hmem)
    exact ⟨htime, fun hup => by simp [hdown] at hup⟩
  have hfed := detector.fed_feed event
  generalize (detector.feed event).1 = next, (detector.feed event).2 = outs at hfed ⊢
  cases hfed with
  | swallow hup hmem => exact ⟨h, by simp⟩
  | wait hdown =>
    refine ⟨fun press hmem => ?_, hheld⟩
    obtain rfl := Option.some.inj hmem
    exact ⟨hdown, Nat.le_refl _⟩
  | pass hfree =>
    refine ⟨.of_held_eq_none rfl _, fun out hmem => ?_⟩
    rcases List.mem_append.mp hmem with hmem | hmem
    · exact hheld out hmem
    · rw [List.mem_singleton.mp hmem]
      exact ⟨Nat.le_refl _, fun _ => rfl⟩
  | fire chord hheld hdown =>
    refine ⟨.of_held_eq_none rfl _, fun out hmem => ?_⟩
    -- both strokes of the output get the time of the event
    have htime : out.time = event.time := by
      rcases List.mem_cons.mp hmem with rfl | hmem
      · rfl
      · rw [List.mem_singleton.mp hmem]
        rfl
    exact ⟨Nat.le_of_eq htime, fun _ => htime⟩

/-- What goes on when the clock advances is a press that was held back. -/
theorem tick_recent {now : Nat} (h : Recent detector now) :
    Recent (detector.tick now).1 now ∧
      ∀ out ∈ (detector.tick now).2, out.action = .press ∧ out.time ≤ now := by
  rw [tick]
  split
  · next held hheld =>
    split
    · refine ⟨.of_held_eq_none rfl _, fun out hmem => ?_⟩
      obtain rfl := Option.some.inj hmem
      exact h held hheld
    · exact ⟨h, by simp⟩
  · exact ⟨h, by simp⟩

/-! ## A press whose term has run out -/

theorem isPastTerm_mono {press : KeyEvent} {now later : Nat}
    (h : detector.isPastTerm press now = true) (hle : now ≤ later) :
    detector.isPastTerm press later = true := by
  simp only [isPastTerm, decide_eq_true_eq] at h ⊢
  omega

/-- A held press whose term has run out only goes first: the event meets the
detector as if nothing was held back, unless it is swallowed. -/
theorem feed_of_isPastTerm {held : KeyEvent} (hheld : detector.held = some held)
    (hpast : detector.isPastTerm held event.time = true) :
    (detector.feed event = ({ detector with swallowed := detector.swallowed.erase event.key }, []) ∧
      ({ detector with held := none } : ChordDetector).feed event =
        ({ detector with held := none, swallowed := detector.swallowed.erase event.key }, [])) ∨
    detector.feed event =
      ((({ detector with held := none } : ChordDetector).feed event).1,
        held :: (({ detector with held := none } : ChordDetector).feed event).2) := by
  by_cases hswallow : (event.isRelease && detector.swallowed.contains event.key) = true
  · left
    simp only [feed, if_pos hswallow, true_and]
  · right
    have hfires : detector.fires? held event = none := by simp [fires?, hpast]
    simp only [feed, if_neg hswallow, hheld, hfires]

end ChordDetector

end Keymap
