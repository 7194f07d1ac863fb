import Keymap.Proofs.Chord.Account

/-!
# Ticks and the chord detector

A tick lets a held press go on earlier than the next event would. It changes no
more than that: the same events go on, in the same order.

- `Call.unticked`: the events of a run, without its ticks.
- `ChordDetector.Ahead`: a detector that has let a press go on which another
  still holds back.
- `signalAll_unticked`: **ticks do not change what goes on** if nothing is held
  back in the end.
- `ChordDetector.outgoing`: what has gone on, and then the press that is held back.
- `outgoing_unticked`: **ticks do not change that** at any point of a run.
- `signalAll_inTime`: in a run whose times do not decrease, a release goes on no
  earlier than what comes before it.
-/

namespace Keymap

/-- The events of a run, without its ticks. -/
def Call.unticked (calls : List Call) : List Call :=
  (Call.events calls).map .event

namespace ChordDetector

/-- `ahead` has let `lead` go on, which `detector` holds back past its term. -/
inductive Ahead (now : Nat) (detector : ChordDetector) :
    ChordDetector → List KeyEvent → Prop where
  | level : Ahead now detector detector []
  | leads {press : KeyEvent} (hheld : detector.held = some press)
      (hpast : detector.isPastTerm press now = true) :
      Ahead now detector { detector with held := none } [press]

variable {detector ahead : ChordDetector} {lead : List KeyEvent} {now : Nat}

/-- An event leaves the two as far apart. -/
theorem Ahead.feed (h : Ahead now detector ahead lead) {event : KeyEvent}
    (hle : now ≤ event.time) :
    ∃ lead', Ahead event.time (detector.feed event).1 (ahead.feed event).1 lead' ∧
      lead ++ (ahead.feed event).2 = (detector.feed event).2 ++ lead' := by
  cases h with
  | level => exact ⟨[], .level, by simp⟩
  | @leads press hheld hpast =>
    -- the event meets both alike, once the one behind has let its press go
    have hpast' := isPastTerm_mono hpast hle
    rcases feed_of_isPastTerm hheld hpast' with ⟨hfeed, hahead⟩ | hfeed
    · rw [hfeed, hahead]
      exact ⟨[press], .leads hheld hpast', by simp⟩
    · rw [hfeed]
      exact ⟨[], .level, by simp⟩

/-- A tick lets the one that is ahead get no further than the held press. -/
theorem Ahead.tick (h : Ahead now detector ahead lead) {later : Nat} (hle : now ≤ later) :
    Ahead later detector (ahead.tick later).1 (lead ++ (ahead.tick later).2.toList) := by
  cases h with
  | leads hheld hpast => exact .leads hheld (isPastTerm_mono hpast hle)
  | level =>
    rw [ChordDetector.tick]
    split
    · next press hheld =>
      split
      · next hpast => exact .leads hheld hpast
      · exact .level
    · exact .level

/-- A run with ticks stays ahead of the run without them. -/
theorem Ahead.signalAll (h : Ahead now detector ahead lead) {calls : List Call}
    (sorted : (now :: Call.times calls).Pairwise (· ≤ ·)) :
    ∃ later lead', Ahead later (detector.signalAll (Call.unticked calls)).1
        (ahead.signalAll calls).1 lead' ∧
      lead ++ Signal.events (ahead.signalAll calls).2 =
        Signal.events (detector.signalAll (Call.unticked calls)).2 ++ lead' := by
  induction calls generalizing detector ahead lead now with
  | nil => exact ⟨now, lead, h, by simp [ChordDetector.signalAll, Call.unticked, Call.events]⟩
  | cons call rest ih =>
    cases call with
    | event event =>
      obtain ⟨hle, hrest⟩ := List.pairwise_cons.mp sorted
      obtain ⟨lead', hahead, hfirst⟩ := h.feed (hle event.time (by simp [Call.times, Call.time?]))
      obtain ⟨later, lead'', hahead', hlater⟩ := ih hahead hrest
      refine ⟨later, lead'', hahead', ?_⟩
      simp only [ChordDetector.signalAll, ChordDetector.signal, Signal.events_append,
        Signal.events_map_event, Call.unticked, Call.events, Call.event?, List.filterMap_cons,
        List.map_cons] at hlater ⊢
      rw [← List.append_assoc, hfirst, List.append_assoc, hlater, List.append_assoc]
    | tick tickTime =>
      obtain ⟨hle, hrest⟩ := List.pairwise_cons.mp sorted
      -- only the run with ticks moves
      obtain ⟨later, lead', hahead', hlater⟩ :=
        ih (h.tick (hle tickTime (by simp [Call.times, Call.time?]))) hrest
      refine ⟨later, lead', hahead', ?_⟩
      simp only [ChordDetector.signalAll, ChordDetector.signal, Signal.events_append,
        Signal.events_map_event, Signal.events_clock, Signal.events_nil, List.append_nil]
      rw [← List.append_assoc]
      exact hlater
    | layer layer => exact ih h sorted
    | capsWord active => exact ih h sorted

/-- **Ticks do not change what goes on** if nothing is held back in the end. -/
theorem signalAll_unticked (detector : ChordDetector) {calls : List Call}
    (sorted : (Call.times calls).Pairwise (· ≤ ·))
    (hheld : (detector.signalAll (Call.unticked calls)).1.held = none) :
    Signal.events (detector.signalAll calls).2 =
      Signal.events (detector.signalAll (Call.unticked calls)).2 := by
  have hsorted : (0 :: Call.times calls).Pairwise (· ≤ ·) :=
    List.Pairwise.cons (fun _ _ => Nat.zero_le _) sorted
  obtain ⟨later, lead, hahead, heq⟩ :=
    @Ahead.signalAll detector detector [] 0 .level calls hsorted
  -- a lead is a press that the run without ticks still holds back
  generalize (detector.signalAll (Call.unticked calls)).1 = final at hheld hahead
  generalize (detector.signalAll calls).1 = final' at hahead
  cases hahead with
  | level => simpa using heq
  | leads hsome _ => simp [hheld] at hsome

/-! ## At any point of a run -/

/-- What has gone on during a run, and then the press that is held back. -/
def outgoing (detector : ChordDetector) (calls : List Call) : List KeyEvent :=
  Signal.events (detector.signalAll calls).2 ++ (detector.signalAll calls).1.held.toList

/-- Of two detectors that are apart, what the one has let go on the other still holds back. -/
theorem Ahead.held (h : Ahead now detector ahead lead) :
    lead ++ ahead.held.toList = detector.held.toList := by
  cases h with
  | level => rfl
  | leads hheld hpast =>
    rw [hheld]
    rfl

/-- **Ticks do not change what goes on and is held back.** In a run whose times do not
decrease, after any of its calls, what has gone on so far and then the press that is held
back are the same events, in the same order, as in the run of the events alone. -/
theorem outgoing_unticked (detector : ChordDetector) {calls : List Call}
    (sorted : (Call.times calls).Pairwise (· ≤ ·)) {front : List Call} (hfront : front <+: calls) :
    detector.outgoing front = detector.outgoing (Call.unticked front) := by
  have hsorted : (0 :: Call.times front).Pairwise (· ≤ ·) :=
    List.Pairwise.cons (fun _ _ => Nat.zero_le _)
      (sorted.sublist (hfront.filterMap Call.time?).sublist)
  obtain ⟨later, lead, hahead, heq⟩ :=
    @Ahead.signalAll detector detector [] 0 .level front hsorted
  rw [List.nil_append] at heq
  rw [outgoing, outgoing, heq, List.append_assoc, hahead.held]

/-- A tick lets `d` go on. Without it `d` is still held back after the release of `j`, which
is swallowed before its term is looked at. -/
theorem outgoing_unticked_swallowed :
    let detector : ChordDetector := { chords := [⟨.j, .k, .x⟩, ⟨.d, .f, .y⟩] }
    let calls : List Call :=
      [.event (.press .j ∅ 0), .event (.press .k ∅ 10), .event (.press .d ∅ 20), .tick 80,
        .event (.release .j ∅ 90), .event (.press .f ∅ 95)]
    let front := calls.take 5
    (Call.times calls).Pairwise (· ≤ ·) ∧ front <+: calls ∧
      (detector.signalAll front).1.held = none ∧
      (detector.signalAll (Call.unticked front)).1.held = some (.press .d ∅ 20) ∧
      detector.outgoing front = detector.outgoing (Call.unticked front) ∧
      detector.outgoing front = [.press .x ∅ 10, .release .x ∅ 10, .press .d ∅ 20] := by
  intro detector calls front
  have sorted : (Call.times calls).Pairwise (· ≤ ·) := by decide
  have hfront : front <+: calls := List.take_prefix 5 calls
  exact ⟨sorted, hfront, by decide, by decide, outgoing_unticked detector sorted hfront,
    by decide⟩

/-! ## Times of signals -/

/-- The signals of a call are no later than it, and a release is as late. -/
theorem signal_recent (h : Recent detector now) {call : Call} (htime : call.time? = some now) :
    Recent (detector.signal call).1 now ∧
      ∀ signal ∈ (detector.signal call).2, signal.time ≤ now ∧
        ∀ e, signal = .event e → e.action = .release → e.time = now := by
  cases call with
  | event event =>
    obtain rfl : event.time = now := by simpa [Call.time?] using htime
    obtain ⟨hnext, hout⟩ := feed_recent h
    refine ⟨hnext, fun signal hmem => ?_⟩
    obtain ⟨out, hfed, rfl⟩ := List.mem_map.mp hmem
    obtain ⟨hle, hup⟩ := hout out hfed
    refine ⟨hle, fun e he => ?_⟩
    obtain rfl := Signal.event.inj he
    exact hup
  | tick tickTime =>
    obtain rfl : tickTime = now := by simpa [Call.time?] using htime
    obtain ⟨hnext, hout⟩ := tick_recent h
    refine ⟨hnext, fun signal hmem => ?_⟩
    rcases List.mem_append.mp hmem with hmem | hmem
    · obtain ⟨out, hflushed, rfl⟩ := List.mem_map.mp hmem
      obtain ⟨hdown, hle⟩ := hout out (Option.mem_toList.mp hflushed)
      refine ⟨hle, fun e he hup => ?_⟩
      obtain rfl := Signal.event.inj he
      simp [hdown] at hup
    · obtain rfl := List.mem_singleton.mp hmem
      exact ⟨Nat.le_refl _, by simp⟩
  | layer layer => simp [Call.time?] at htime
  | capsWord active => simp [Call.time?] at htime

/-- A call without a time sends no signal. -/
theorem signal_of_time?_eq_none {call : Call} (htime : call.time? = none) :
    detector.signal call = (detector, []) := by
  cases call with
  | event event => simp [Call.time?] at htime
  | tick tickTime => simp [Call.time?] at htime
  | layer layer => rfl
  | capsWord active => rfl

/-- **A release goes on no earlier than what comes before it** in a run whose
times do not decrease, and no earlier than the run starts. -/
theorem signalAll_inTime (h : Recent detector now) {calls : List Call}
    (sorted : (now :: Call.times calls).Pairwise (· ≤ ·)) :
    Signal.InTime (detector.signalAll calls).2 ∧
      ∀ e, .event e ∈ (detector.signalAll calls).2 → e.action = .release → now ≤ e.time := by
  induction calls generalizing detector now with
  | nil => exact ⟨List.Pairwise.nil, by simp [signalAll]⟩
  | cons call rest ih =>
    cases htime : call.time? with
    | none =>
      have hrest : (now :: Call.times rest).Pairwise (· ≤ ·) := by
        rwa [Call.times, List.filterMap_cons_none htime] at sorted
      simp only [signalAll, signal_of_time?_eq_none htime, List.nil_append]
      exact ih h hrest
    | some time =>
      rw [Call.times, List.filterMap_cons_some htime] at sorted
      obtain ⟨hle, hrest⟩ := List.pairwise_cons.mp sorted
      have hnow : now ≤ time := hle time (by simp)
      obtain ⟨hrecent, hfirst⟩ := signal_recent (h.mono hnow) htime
      obtain ⟨hlater, hlate⟩ := ih hrecent hrest
      simp only [signalAll]
      -- the signals of the call among each other, before the rest, and after the start
      refine ⟨List.pairwise_append.mpr ⟨?_, hlater, ?_⟩, ?_⟩
      · refine List.pairwise_of_forall_mem_list fun first hf second hs e he hup => ?_
        rw [(hfirst second hs).2 e he hup]
        exact (hfirst first hf).1
      · intro first hf second hs e he hup
        exact Nat.le_trans (hfirst first hf).1 (hlate e (he ▸ hs) hup)
      · intro e hmem hup
        rcases List.mem_append.mp hmem with hmem | hmem
        · rw [(hfirst _ hmem).2 e rfl hup]
          exact hnow
        · exact Nat.le_trans hnow (hlate e hmem hup)

end ChordDetector

end Keymap
