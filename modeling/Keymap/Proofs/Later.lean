import Keymap.Proofs.Lights
import Keymap.Proofs.ModTap.Turn
import Keymap.Proofs.Trace
import Keymap.Proofs.Typist.Unseen

/-!
# The same, later

Times are kept in the press that the chord detector holds back, in the records of keys
that are down and in the events behind a pending mod-tap, and made-up events copy them. All
that is ever asked of them is how much later one is than another. So an engine that starts
later, and is fed everything as much later, does the same.

- `ChordDetector.delay`, `ModTapStage.delay`, `Engine.delay`: the stages, and the engine,
  with all times later.
- `ChordDetector.feed_delay`, `ModTapStage.run_delay`, `Engine.call_delay`: each step of
  them, later.
- `Engine.trace_delay`: **what is seen of a run does not depend on when it starts**.
-/

namespace Keymap

/-! ## The chord detector -/

namespace ChordDetector

/-- The detector with the press that it holds back later. -/
def delay (d : Nat) (detector : ChordDetector) : ChordDetector :=
  { detector with held := detector.held.map (KeyEvent.delay d) }

variable (d : Nat) (detector : ChordDetector)

theorem isPastTerm_delay (press : KeyEvent) (now : Nat) :
    (detector.delay d).isPastTerm (press.delay d) (now + d) = detector.isPastTerm press now := by
  show decide (detector.term ≤ now + d - (press.time + d)) = _
  rw [Nat.add_sub_add_right]
  rfl

theorem fires?_delay (held event : KeyEvent) :
    (detector.delay d).fires? (held.delay d) (event.delay d) = detector.fires? held event := by
  have hterm := detector.isPastTerm_delay d held event.time
  unfold fires?
  rw [show (event.delay d).time = event.time + d from rfl, hterm]
  rfl

theorem accept_delay (event : KeyEvent) :
    (detector.delay d).accept (event.delay d) =
      ((detector.accept event).1.delay d, (detector.accept event).2.map (KeyEvent.delay d)) := by
  unfold accept
  show (if event.isPress && !event.mods.hasNonShift && detector.isMember event.key then _
    else _) = _
  split <;> rfl

/-- A delayed detector lets the same events go on, delayed. -/
theorem feed_delay (event : KeyEvent) :
    (detector.delay d).feed (event.delay d) =
      ((detector.feed event).1.delay d, (detector.feed event).2.map (KeyEvent.delay d)) := by
  unfold feed
  show (if event.isRelease && detector.swallowed.contains event.key then _ else _) = _
  split
  · rfl
  · rw [show (detector.delay d).held = detector.held.map (KeyEvent.delay d) from rfl]
    cases detector.held with
    | none => exact detector.accept_delay d event
    | some held =>
      simp only [Option.map_some, fires?_delay]
      cases detector.fires? held event with
      | some chord => rfl
      | none =>
        have haccept := ({ detector with held := none } : ChordDetector).accept_delay d event
        exact congrArg (fun next => (next.1, held.delay d :: next.2)) haccept

theorem tick_delay (now : Nat) :
    (detector.delay d).tick (now + d) =
      ((detector.tick now).1.delay d, (detector.tick now).2.map (KeyEvent.delay d)) := by
  unfold tick
  rw [show (detector.delay d).held = detector.held.map (KeyEvent.delay d) from rfl]
  cases detector.held with
  | none => rfl
  | some held =>
    simp only [Option.map_some, isPastTerm_delay]
    split <;> rfl

end ChordDetector

/-- The call, later. -/
def Call.delay (d : Nat) : Call → Call
  | .event e => .event (e.delay d)
  | .tick now => .tick (now + d)
  | .layer l => .layer l
  | .capsWord active => .capsWord active

/-- The signal, later. -/
def Signal.delay (d : Nat) : Signal → Signal
  | .event e => .event (e.delay d)
  | .clock now => .clock (now + d)

theorem Signal.map_event_delay (d : Nat) (events : List KeyEvent) :
    (events.map (KeyEvent.delay d)).map Signal.event =
      (events.map Signal.event).map (Signal.delay d) := by
  rw [List.map_map, List.map_map]
  rfl

/-- A delayed detector gives the same signals, delayed. -/
theorem ChordDetector.signal_delay (d : Nat) (detector : ChordDetector) (call : Call) :
    (detector.delay d).signal (call.delay d) =
      ((detector.signal call).1.delay d, (detector.signal call).2.map (Signal.delay d)) := by
  cases call with
  | event event =>
    simp only [Call.delay, signal, feed_delay, Signal.map_event_delay]
  | tick now =>
    have hflushed (flushed : Option KeyEvent) :
        (flushed.map (KeyEvent.delay d)).toList = flushed.toList.map (KeyEvent.delay d) := by
      cases flushed <;> rfl
    simp only [Call.delay, signal, tick_delay, hflushed, Signal.map_event_delay, List.map_append]
    rfl
  | layer layer => rfl
  | capsWord active => rfl

/-! ## The mod-tap stage -/

/-- The pending mod-tap with the events behind it later. -/
def PendingModTap.delay (d : Nat) (pending : PendingModTap) : PendingModTap :=
  { pending with buffer := pending.buffer.map (KeyEvent.delay d) }

namespace ModTapStage

/-- The stage with all its times later. -/
def delay (d : Nat) (stage : ModTapStage) : ModTapStage where
  timers := stage.timers.delay d
  pending := stage.pending.map (PendingModTap.delay d)
  held := stage.held

/-- What a step of the stage leads to, later. -/
def Step.delay (d : Nat) (step : Step) : Step where
  stage := step.stage.delay d
  outputs := step.outputs.map (StageOutput.delay d)
  again := step.again.map (KeyEvent.delay d)

/-- The task, later. -/
def Task.delay (d : Nat) : Task → Task
  | .route event => .route (event.delay d)
  | .accept event => .accept (event.delay d)

variable (d : Nat) (stage : ModTapStage)

theorem isNested_delay (pending : PendingModTap) (event : KeyEvent) :
    PendingModTap.isNested (pending.delay d) (event.delay d) =
      PendingModTap.isNested pending event := by
  unfold PendingModTap.isNested
  show (event.isRelease && (pending.buffer.map (KeyEvent.delay d)).any _) = _
  rw [List.any_map]
  rfl

theorem expired?_delay (now : Nat) :
    (stage.delay d).expired? (now + d) = (stage.expired? now).map (PendingModTap.delay d) := by
  unfold expired?
  show (stage.pending.map (PendingModTap.delay d)).filter _ = _
  cases stage.pending with
  | none => rfl
  | some pending =>
    have hterm := stage.timers.isPastTerm_delay d pending.modTap.key now
    simp only [Option.map_some, Option.filter_some]
    show (if (stage.timers.delay d).isPastTerm pending.modTap.key (now + d) then _ else _) = _
    rw [hterm]
    split <;> rfl

theorem settleHold_delay (pending : PendingModTap) :
    (stage.delay d).settleHold (pending.delay d) = (stage.settleHold pending).delay d := by
  have hforget := stage.timers.forget_delay d pending.modTap.key
  exact congrArg (fun timers => (⟨⟨timers, none, stage.held ++ [pending.modTap]⟩,
    [stage.holdOutput pending], (pending.buffer.map (KeyEvent.delay d))⟩ : Step)) hforget

theorem settleTap_delay (pending : PendingModTap) (event : KeyEvent) :
    (stage.delay d).settleTap (pending.delay d) (event.delay d) =
      (stage.settleTap pending event).delay d := by
  have hrelease := stage.timers.release_delay d event.key event.time
  unfold settleTap
  rw [show (stage.delay d).timers.release (event.delay d).key (event.delay d).time = _
    from hrelease]
  obtain ⟨timers, resolution, record?⟩ := stage.timers.release event.key event.time
  cases record? <;> rfl

theorem acceptBehind_delay (pending : PendingModTap) (event : KeyEvent) :
    (stage.delay d).acceptBehind (pending.delay d) (event.delay d) =
      (stage.acceptBehind pending event).delay d := by
  have hlonger : { pending.delay d with buffer := (pending.delay d).buffer ++ [event.delay d] } =
      PendingModTap.delay d { pending with buffer := pending.buffer ++ [event] } := by
    simp [PendingModTap.delay]
  unfold acceptBehind
  simp only [settleTap_delay, hlonger, isNested_delay, settleHold_delay]
  show (if event.isRelease && event.key == pending.modTap.key then _ else _) = _
  split
  · rfl
  · split <;> rfl

/-- The record of the press is later too. -/
theorem start_delay (modTap : ModTap) (event : KeyEvent) :
    (stage.delay d).start modTap (event.delay d) = (stage.start modTap event).delay d := by
  have hpress := stage.timers.press_delay d modTap.key
    ⟨event.time, event.mods ∪ stage.mods, false⟩
  exact congrArg (fun timers => (⟨timers, some ⟨modTap, []⟩, stage.held⟩ : ModTapStage)) hpress

theorem lift_delay (modTap : ModTap) :
    (stage.delay d).lift modTap = (stage.lift modTap).delay d := by
  unfold lift
  show (if stage.held.any _ then _ else _) = Step.delay d (if stage.held.any _ then _ else _)
  split <;> rfl

theorem acceptFree_delay (event : KeyEvent) :
    (stage.delay d).acceptFree (event.delay d) = (stage.acceptFree event).delay d := by
  unfold acceptFree
  rw [show (event.delay d).key = event.key from rfl,
    show (event.delay d).isPress = event.isPress from rfl]
  cases ModTap.ofKey? event.key with
  | none => rfl
  | some modTap =>
    simp only [start_delay, lift_delay]
    cases event.isPress <;> rfl

theorem accept_delay (event : KeyEvent) :
    (stage.delay d).accept (event.delay d) = (stage.accept event).delay d := by
  unfold accept
  rw [show (stage.delay d).pending = stage.pending.map (PendingModTap.delay d) from rfl]
  cases stage.pending with
  | none => exact stage.acceptFree_delay d event
  | some pending => exact stage.acceptBehind_delay d pending event

theorem map_route_delay (events : List KeyEvent) :
    (events.map (KeyEvent.delay d)).map Task.route = (events.map Task.route).map (Task.delay d) := by
  rw [List.map_map, List.map_map]
  rfl

/-- **A delayed stage works through delayed tasks alike**, however often it replays them. -/
theorem run_delay (tasks : List Task) :
    (stage.delay d).run (tasks.map (Task.delay d)) =
      ((stage.run tasks).1.delay d, (stage.run tasks).2.map (StageOutput.delay d)) := by
  induction stage, tasks using run.induct with
  | case1 stage => simp
  | case2 stage event rest pending hexpired step final outputs _ ih =>
    have hexpired' : (stage.delay d).expired? (event.delay d).time = some (pending.delay d) := by
      rw [show (event.delay d).time = event.time + d from rfl, expired?_delay, hexpired]
      rfl
    have hholding : (stage.delay d).holding (pending.delay d) = (stage.holding pending).delay d :=
      congrArg Step.stage (stage.settleHold_delay d pending)
    rw [List.map_append, ← map_route_delay] at ih
    rw [List.map_cons, Task.delay, run_route_of_expired _ hexpired',
      run_route_of_expired _ hexpired, hholding]
    exact congrArg (fun later => (later.1, stage.holdOutput pending :: later.2)) ih
  | case3 stage event rest hexpired ih =>
    have hexpired' : (stage.delay d).expired? (event.delay d).time = none := by
      rw [show (event.delay d).time = event.time + d from rfl, expired?_delay, hexpired]
      rfl
    rw [List.map_cons, Task.delay, run_route_of_not_expired _ hexpired',
      run_route_of_not_expired _ hexpired]
    exact ih
  | case4 stage event rest step final outputs _ ih =>
    rw [List.map_append, ← map_route_delay] at ih
    rw [List.map_cons, Task.delay, run_accept, run_accept, accept_delay]
    simp only [List.map_append]
    exact congrArg (fun later =>
      (later.1, (stage.accept event).outputs.map (StageOutput.delay d) ++ later.2)) ih

theorem expire_delay (now : Nat) :
    (stage.delay d).expire (now + d) =
      ((stage.expire now).1.delay d, (stage.expire now).2.map (StageOutput.delay d)) := by
  unfold expire
  rw [expired?_delay]
  cases stage.expired? now with
  | none => rfl
  | some pending =>
    have hrun := (stage.settleHold pending).stage.run_delay d
      ((stage.settleHold pending).again.map .route)
    rw [← map_route_delay] at hrun
    simp only [Option.map_some, settleHold_delay]
    exact congrArg (fun later =>
      (later.1, (stage.settleHold pending).outputs.map (StageOutput.delay d) ++ later.2)) hrun

theorem take_delay (signal : Signal) :
    (stage.delay d).take (signal.delay d) =
      ((stage.take signal).1.delay d, (stage.take signal).2.map (StageOutput.delay d)) := by
  cases signal with
  | event event => exact stage.run_delay d [.route event]
  | clock now => exact stage.expire_delay d now

/-- A delayed stage makes the same of delayed signals. -/
theorem takeAll_delay (signals : List Signal) :
    (stage.delay d).takeAll (signals.map (Signal.delay d)) =
      ((stage.takeAll signals).1.delay d, (stage.takeAll signals).2.map (StageOutput.delay d)) := by
  induction signals generalizing stage with
  | nil => rfl
  | cons signal rest ih =>
    rw [List.map_cons, takeAll_cons, take_delay, ih, takeAll_cons, List.map_append]

end ModTapStage

/-! ## The engine -/

namespace Engine

/-- The engine with all its times later. -/
def delay (d : Nat) (engine : Engine) : Engine where
  chords := engine.chords.delay d
  modTaps := engine.modTaps.delay d
  typist := engine.typist.moved d id

variable (d : Nat)

/-- An event is answered alike, later. The lights follow from what the typist is left
with. -/
theorem handle_delay (typist : Typist) (event : KeyEvent) :
    (typist.moved d id).handle (event.delay d) =
      ((typist.handle event).1.moved d id, (typist.handle event).2) := by
  obtain ⟨hnext, houtputs⟩ := typist.handle_moved d id event
  refine Prod.ext hnext (Response.ext houtputs ?_)
  rw [Typist.handle_shown, hnext, Typist.handle_shown]
  rfl

theorem settle_delay (typist : Typist) (output : StageOutput) :
    settle (typist.moved d id) (output.delay d) =
      ((settle typist output).1.moved d id, (settle typist output).2) := by
  cases output with
  | pass event => exact handle_delay d typist event
  | tap modTap press release => simp only [StageOutput.delay, settle, handle_delay]
  | hold modTap first => rfl
  | lift modTap last => rfl

theorem settleAll_delay (typist : Typist) (outputs : List StageOutput) :
    settleAll (typist.moved d id) (outputs.map (StageOutput.delay d)) =
      ((settleAll typist outputs).1.moved d id, (settleAll typist outputs).2) := by
  induction outputs generalizing typist with
  | nil => rfl
  | cons output rest ih => simp only [List.map_cons, settleAll, settle_delay, ih]

theorem setLayer_delay (typist : Typist) (layer : Layer) :
    (typist.moved d id).setLayer layer =
      ((typist.setLayer layer).1.moved d id, (typist.setLayer layer).2) := by
  unfold Typist.setLayer
  show (if layer = typist.layer then _ else _) = _
  split <;> rfl

/-- **A call of a delayed engine, as much later, is answered alike**, and the engine stays
delayed. -/
theorem call_delay (engine : Engine) (call : Call) :
    (engine.delay d).call (call.delay d) =
      ((engine.call call).1.delay d, (engine.call call).2) := by
  obtain htime | ⟨layer, rfl⟩ | ⟨active, rfl⟩ := call.isSome_time?_or
  · have htime' : (call.delay d).time?.isSome := by
      cases call <;> exact htime
    rw [call_eq _ htime, call_eq _ htime']
    simp only [delay, ChordDetector.signal_delay, ModTapStage.takeAll_delay, settleAll_delay]
  · have hset := setLayer_delay d engine.typist layer
    exact congrArg (fun set => (({ engine.delay d with typist := set.1 } : Engine), set.2)) hset
  · cases active <;> rfl

/-- **What is seen of a run does not depend on when it starts.** If every event and every
reading of the clock comes `d` milliseconds later, each call is answered with the same
outputs and the same schemes for the lights, and all that can be asked of the engine after
it is the same. -/
theorem trace_delay (settings : EngineSettings) (d : Nat) (calls : List Call) :
    (new settings).trace (calls.map (Call.delay d)) = (new settings).trace calls := by
  refine @trace_of_simulation (fun engine other => other = engine.delay d) (Call.delay d)
    ?_ ?_ (new settings) (new settings) rfl calls
  · rintro engine other rfl
    rfl
  · rintro engine other call rfl
    rw [call_delay]
    exact ⟨rfl, rfl⟩

end Engine

end Keymap
