import Keymap.Proofs.ModTap.Backlog

/-!
# Reachable engines

What every run of a fresh engine keeps, whatever it is fed.

- `Engine.new_settles`: a run settles its events in order.
- `Engine.Reachable.backlog`, `Engine.Reachable.term`: what a reachable mod-tap
  stage is like.
- `Engine.Reachable.idle`, `ChordDetector.signalAll_idle`: **without chords the
  detector lets everything through**.
-/

namespace Keymap

/-- The signal of a call that goes through a detector without chords. -/
def Call.signal? : Call → Option Signal
  | .event e => some (.event e)
  | .tick now => some (.clock now)
  | .layer _ | .capsWord _ => none

/-- Without chords the signals carry the events of the calls. -/
theorem Call.events_signals (calls : List Call) :
    Signal.events (calls.filterMap signal?) = events calls := by
  rw [Signal.events, List.filterMap_filterMap, events]
  refine congrArg (List.filterMap · calls) (funext fun call => ?_)
  cases call <;> rfl

namespace ChordDetector

/-- There are no chords, and nothing is held back or swallowed. -/
structure Idle (detector : ChordDetector) : Prop where
  chords : detector.chords = []
  held : detector.held = none
  swallowed : detector.swallowed = []

theorem feed_idle {detector : ChordDetector} (h : Idle detector) (event : KeyEvent) :
    detector.feed event = (detector, [event]) := by
  simp [feed, accept, isMember, h.chords, h.held, h.swallowed]

theorem signal_idle {detector : ChordDetector} (h : Idle detector) (call : Call) :
    detector.signal call = (detector, call.signal?.toList) := by
  cases call with
  | event event => simp [signal, feed_idle h, Call.signal?]
  | tick now => simp [signal, tick, h.held, Call.signal?]
  | layer layer => rfl
  | capsWord active => rfl

/-- **Without chords the detector lets everything through.** -/
theorem signalAll_idle {detector : ChordDetector} (h : Idle detector) (calls : List Call) :
    detector.signalAll calls = (detector, calls.filterMap Call.signal?) := by
  induction calls with
  | nil => rfl
  | cons call rest ih =>
    simp only [signalAll, signal_idle h, ih, List.filterMap_cons]
    cases call.signal? <;> rfl

end ChordDetector

namespace Engine

/-- What a run of a fresh engine settles. -/
theorem new_settles (settings : EngineSettings) (calls : List Call) {ordered : Prop}
    (hord : ordered → Signal.InTime ((new settings).chords.signalAll calls).2) :
    ∃ queue, ModTapStage.Backlog ((new settings).callAll calls).1.modTaps queue ∧
      Settlement settings.tappingTerm ordered []
        (Signal.events ((new settings).chords.signalAll calls).2)
        ((new settings).settled calls) ((new settings).callAll calls).1.modTaps.held queue := by
  rw [callAll_modTaps]
  exact (ModTapStage.takeAll_settles (ModTapStage.backlog_fresh _) _ hord).2

namespace Reachable

variable {settings : EngineSettings} {engine : Engine}

theorem callAll (h : Reachable settings engine) (calls : List Call) :
    Reachable settings (engine.callAll calls).1 := by
  obtain ⟨before, rfl⟩ := h
  exact ⟨before ++ calls, by rw [callAll_append]⟩

/-- The mod-tap stage has a backlog. -/
theorem backlog (h : Reachable settings engine) :
    ∃ queue, ModTapStage.Backlog engine.modTaps queue := by
  obtain ⟨calls, rfl⟩ := h
  obtain ⟨queue, hb, -⟩ := new_settles settings calls False.elim
  exact ⟨queue, hb⟩

/-- The tapping term is the one that was set. -/
theorem term (h : Reachable settings engine) :
    engine.modTaps.timers.term = settings.tappingTerm := by
  obtain ⟨calls, rfl⟩ := h
  rw [callAll_modTaps]
  exact (ModTapStage.takeAll_settles (ModTapStage.backlog_fresh _) _ False.elim).1

/-- Without chords the detector stays idle. -/
theorem idle (h : Reachable settings engine) (hcombos : settings.combos = []) :
    engine.chords.Idle := by
  obtain ⟨calls, rfl⟩ := h
  have hnew : (new settings).chords.Idle := ⟨hcombos, rfl, rfl⟩
  rw [callAll_chords, ChordDetector.signalAll_idle hnew]
  exact hnew

end Reachable

end Engine

end Keymap
