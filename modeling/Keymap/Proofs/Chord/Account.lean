import Keymap.Proofs.Chord.Feed
import Keymap.Proofs.Run

/-!
# The account of the chord detector

The detector delays a press, swallows releases and makes up taps, but every key
that it takes in is passed on or owed.

- `ChordDetector.owed`: how often a key went in and neither on nor up again.
- `ChordDetector.Sane`: only presses are held back.
- `feed_account`, `tick_account`: what an event and a tick do to the account.
- `signalAll_account`: **what goes on is sound**, and the level of each key is
  what came in less what is owed.
-/

namespace Keymap

open Stroke

namespace ChordDetector

/-- How often a key went into the detector and neither on nor up again. -/
def owed (detector : ChordDetector) (key : Key) : Int :=
  level key (detector.held.toList.map KeyEvent.stroke) + detector.swallowed.count key

/-- Only presses are held back. -/
def Sane (detector : ChordDetector) : Prop :=
  ∀ press ∈ detector.held, press.action = .press

variable {detector : ChordDetector} {key : Key} {n : Int}

theorem level_held_nonneg (hsane : Sane detector) (key : Key) :
    0 ≤ level key (detector.held.toList.map KeyEvent.stroke) := by
  refine level_nonneg fun hmem => ?_
  obtain ⟨press, hheld, hup⟩ := List.mem_map.mp hmem
  rw [KeyEvent.stroke_of_press (hsane press (Option.mem_toList.mp hheld))] at hup
  exact down_ne_up _ _ hup

theorem owed_nonneg (hsane : Sane detector) (key : Key) : 0 ≤ detector.owed key := by
  have := level_held_nonneg hsane key
  simp only [owed]
  omega

theorem sound_held (hsane : Sane detector) (hn : 0 ≤ n) :
    Sound key n (detector.held.toList.map KeyEvent.stroke) :=
  sound_of_length_le_one (by cases detector.held <;> simp) hn
    (Int.add_nonneg hn (level_held_nonneg hsane key))

/-- What an event does to the account. -/
theorem feed_account (hsane : Sane detector) (event : KeyEvent) (hn : 0 ≤ n)
    (hs : 0 ≤ n + detector.owed key + delta key event.stroke) :
    Sane (detector.feed event).1 ∧
      Sound key n ((detector.feed event).2.map KeyEvent.stroke) ∧
      level key ((detector.feed event).2.map KeyEvent.stroke) +
          (detector.feed event).1.owed key =
        detector.owed key + delta key event.stroke := by
  have hraise := level_held_nonneg hsane key
  have hfed := detector.fed_feed event
  generalize (detector.feed event).1 = next, (detector.feed event).2 = outs at hfed ⊢
  cases hfed with
  | swallow hup hmem =>
    refine ⟨hsane, keeps_nil.mpr hn, ?_⟩
    have hpos := List.count_pos_iff.mpr hmem
    rw [KeyEvent.stroke_of_release hup, delta_up, List.map_nil, level_nil]
    simp only [owed, List.count_erase]
    by_cases hkey : event.key = key
    · rw [hkey] at hpos
      simp only [hkey, beq_self_eq_true, if_true]
      omega
    · simp only [hkey, if_false, beq_iff_eq]
      omega
  | wait hdown =>
    refine ⟨fun press hmem => ?_, sound_held hsane hn, ?_⟩
    · rwa [← Option.some.inj hmem]
    · simp only [owed, Option.toList_some, List.map_cons, List.map_nil, level_cons, level_nil]
      omega
  | pass hfree =>
    refine ⟨fun press hmem => by simp at hmem, ?_, ?_⟩
    · rw [List.map_append, List.map_singleton]
      refine sound_append.mpr ⟨sound_held hsane hn, ?_⟩
      refine sound_of_length_le_one (by simp) (Int.add_nonneg hn hraise) ?_
      rw [level_cons, level_nil, Int.add_zero]
      by_cases hup : event.stroke = .up key
      · -- a release that goes on is of a key that is not swallowed
        have hkey : event.key = key := congrArg Stroke.key hup
        have hcount := List.count_eq_zero.mpr (hkey ▸ hfree (congrArg Stroke.action hup))
        simp only [owed, hcount] at hs
        omega
      · have := delta_nonneg hup
        omega
    · simp only [owed, List.map_append, List.map_cons, List.map_nil, level_append, level_cons,
        level_nil, Option.toList_none]
      omega
  | @fire held chord hheld hdown =>
    refine ⟨fun press hmem => by simp at hmem, sound_tap.mpr (keeps_nil.mpr hn), ?_⟩
    -- both members are owed, and the output is tapped
    show level key (down chord.output :: ([] ++ up chord.output :: [])) + _ = _
    rw [level_drop_pair, KeyEvent.stroke_of_press hdown]
    simp only [owed, hheld, List.count_append, Option.toList_none, Option.toList_some,
      List.map_nil, List.map_cons, KeyEvent.stroke_of_press (hsane held hheld), level_cons,
      level_nil, delta_down, List.count_cons, List.count_nil, List.append_nil, beq_iff_eq]
    split <;> split <;> omega

/-- What the clock does to the account. -/
theorem tick_account (hsane : Sane detector) (key : Key) (now : Nat) (hn : 0 ≤ n) :
    Sane (detector.tick now).1 ∧
      Sound key n ((detector.tick now).2.toList.map KeyEvent.stroke) ∧
      level key ((detector.tick now).2.toList.map KeyEvent.stroke) +
          (detector.tick now).1.owed key = detector.owed key := by
  have hraise := level_held_nonneg hsane key
  rw [tick]
  split
  · next held hheld =>
    split
    · rw [hheld] at hraise
      refine ⟨fun press hmem => by simp at hmem, ?_, ?_⟩
      · exact sound_of_length_le_one (by simp) hn (Int.add_nonneg hn hraise)
      · simp [owed, hheld]
    · exact ⟨hsane, keeps_nil.mpr hn, Int.zero_add _⟩
  · exact ⟨hsane, keeps_nil.mpr hn, Int.zero_add _⟩

/-- What a call does to the account. -/
theorem signal_account (hsane : Sane detector) (call : Call) (hn : 0 ≤ n)
    (hs : Sound key (n + detector.owed key) (Call.strokes [call])) :
    Sane (detector.signal call).1 ∧
      Sound key n ((Signal.events (detector.signal call).2).map KeyEvent.stroke) ∧
      level key ((Signal.events (detector.signal call).2).map KeyEvent.stroke) +
          (detector.signal call).1.owed key =
        detector.owed key + level key (Call.strokes [call]) := by
  cases call with
  | event event =>
    simp only [signal, Signal.events_map_event, Call.strokes_event, Call.strokes_nil, level_cons,
      level_nil, Int.add_zero]
    exact feed_account hsane event hn (by simpa using hs.last)
  | tick now =>
    simp only [signal, Signal.events_append, Signal.events_map_event, Signal.events_clock,
      Signal.events_nil, List.append_nil, Call.strokes_tick, Call.strokes_nil, level_nil,
      Int.add_zero]
    exact tick_account hsane key now hn
  | layer layer => exact ⟨hsane, keeps_nil.mpr hn, by simp [signal]⟩
  | capsWord active => exact ⟨hsane, keeps_nil.mpr hn, by simp [signal]⟩

/-- **What goes on is sound**, and its level is what came in less what is owed. -/
theorem signalAll_account (hsane : Sane detector) (calls : List Call) (hn : 0 ≤ n)
    (hs : Sound key (n + detector.owed key) (Call.strokes calls)) :
    Sane (detector.signalAll calls).1 ∧
      Sound key n ((Signal.events (detector.signalAll calls).2).map KeyEvent.stroke) ∧
      level key ((Signal.events (detector.signalAll calls).2).map KeyEvent.stroke) +
          (detector.signalAll calls).1.owed key =
        detector.owed key + level key (Call.strokes calls) := by
  induction calls generalizing detector n with
  | nil => exact ⟨hsane, keeps_nil.mpr hn, by simp [signalAll]⟩
  | cons call rest ih =>
    rw [Call.strokes_cons, sound_append] at hs
    obtain ⟨hfirst, hrest⟩ := hs
    obtain ⟨hsane', hsound, hlevel⟩ := signal_account hsane call hn hfirst
    -- what the first call leaves owed is what the rest starts from
    rw [Int.add_assoc, ← hlevel, ← Int.add_assoc] at hrest
    obtain ⟨hsane'', hsound', hlevel'⟩ := ih hsane' hsound.last hrest
    rw [Call.strokes_cons]
    simp only [signalAll, Signal.events_append, List.map_append, level_append]
    exact ⟨hsane'', sound_append.mpr ⟨hsound, hsound'⟩, by omega⟩

/-- Nothing is owed only if nothing is held back and nothing is to be swallowed. -/
theorem eq_none_of_owed (hsane : Sane detector) (h : ∀ key, detector.owed key = 0) :
    detector.held = none ∧ detector.swallowed = [] := by
  constructor
  · cases hheld : detector.held with
    | none => rfl
    | some press =>
      have := h press.key
      simp only [owed, hheld, Option.toList_some, List.map_cons, List.map_nil,
        KeyEvent.stroke_of_press (hsane press hheld), level_cons, level_nil,
        delta_down_self] at this
      omega
  · refine List.eq_nil_iff_forall_not_mem.mpr fun key hmem => ?_
    have := h key
    have := level_held_nonneg hsane key
    have := List.count_pos_iff.mpr hmem
    simp only [owed] at *
    omega

/-- **Nothing is owed in the end** if nothing is at the start and every key is up,
and what goes on leaves every key up. -/
theorem signalAll_complete {calls : List Call}
    (hfresh : detector.held = none ∧ detector.swallowed = [])
    (h : Complete (Call.strokes calls)) :
    ((detector.signalAll calls).1.held = none ∧ (detector.signalAll calls).1.swallowed = []) ∧
      ∀ key, Sound key 0 ((Signal.events (detector.signalAll calls).2).map KeyEvent.stroke) ∧
        level key ((Signal.events (detector.signalAll calls).2).map KeyEvent.stroke) = 0 := by
  have hsane : Sane detector := fun press hmem => by simp [hfresh.1] at hmem
  have howed (key : Key) : detector.owed key = 0 := by simp [owed, hfresh]
  have haccount (key : Key) := @signalAll_account detector key 0 hsane calls (Int.le_refl 0)
    (by rw [howed]; exact h.sound_zero key)
  -- neither side of the account can be negative, so both are zero
  have hzero (key : Key) : (detector.signalAll calls).1.owed key = 0 := by
    obtain ⟨hsane', hsound, hlevel⟩ := haccount key
    have := owed_nonneg hsane' key
    have := hsound.last
    rw [howed, h.level_eq_zero] at hlevel
    omega
  refine ⟨eq_none_of_owed (haccount .noKey).1 hzero, fun key => ⟨(haccount key).2.1, ?_⟩⟩
  have hlevel := (haccount key).2.2
  rw [howed, hzero, h.level_eq_zero] at hlevel
  omega

end ChordDetector

end Keymap
