import Keymap.Engine
import Keymap.Proofs.Strokes

/-!
# Runs of the engine

A caller makes calls of an engine, one after another. The engine is a pipeline,
and a run of it is a run of each of its stages on what the stage before gave:

- `Call`: an event, an advance of the clock, a layer or caps word from outside.
- `Engine.callAll`: a run; `Engine.Reachable`: the states that runs lead to.
- `Signal`: what reaches the mod-tap stage, an event or a reading of the clock.
- `ChordDetector.signalAll`: the signals that calls lead to.
- `ModTapStage.takeAll`: what the mod-tap stage does with signals.
- `Engine.settled`: what leaves the mod-tap stage during a run.
- `Engine.callAll_modTaps`, `Engine.callAll_typist`: the run is the composition.
-/

namespace Keymap

/-- One call of an engine. -/
inductive Call where
  | event (event : KeyEvent)
  | tick (now : Nat)
  | layer (layer : Layer)
  | capsWord (active : Bool)

namespace Call

/-- The event of a call. -/
def event? : Call → Option KeyEvent
  | .event e => some e
  | .tick _ | .layer _ | .capsWord _ => none

/-- The time of a call, if it has one. -/
def time? : Call → Option Nat
  | .event e => some e.time
  | .tick now => some now
  | .layer _ | .capsWord _ => none

/-- An event and a tick have a time. A layer and caps word, which are told from outside, have
none. -/
theorem isSome_time?_or (call : Call) :
    call.time?.isSome ∨ (∃ l, call = .layer l) ∨ ∃ active, call = .capsWord active := by
  cases call with
  | event e => exact .inl rfl
  | tick now => exact .inl rfl
  | layer l => exact .inr (.inl ⟨l, rfl⟩)
  | capsWord active => exact .inr (.inr ⟨active, rfl⟩)

/-- The events among some calls. -/
def events (calls : List Call) : List KeyEvent :=
  calls.filterMap event?

/-- The times of some calls. -/
def times (calls : List Call) : List Nat :=
  calls.filterMap time?

/-- What the events among some calls do to keys. -/
def strokes (calls : List Call) : List Stroke :=
  (events calls).map KeyEvent.stroke

@[simp] theorem events_nil : events [] = [] := rfl

@[simp] theorem events_event (event : KeyEvent) (rest : List Call) :
    events (.event event :: rest) = event :: events rest := rfl

@[simp] theorem events_tick (now : Nat) (rest : List Call) :
    events (.tick now :: rest) = events rest := rfl

@[simp] theorem events_layer (layer : Layer) (rest : List Call) :
    events (.layer layer :: rest) = events rest := rfl

@[simp] theorem events_capsWord (active : Bool) (rest : List Call) :
    events (.capsWord active :: rest) = events rest := rfl

theorem events_append (front back : List Call) :
    events (front ++ back) = events front ++ events back :=
  List.filterMap_append

theorem events_cons (call : Call) (rest : List Call) :
    events (call :: rest) = events [call] ++ events rest :=
  events_append [call] rest

@[simp] theorem strokes_nil : strokes [] = [] := rfl

@[simp] theorem strokes_event (event : KeyEvent) (rest : List Call) :
    strokes (.event event :: rest) = event.stroke :: strokes rest := rfl

@[simp] theorem strokes_tick (now : Nat) (rest : List Call) :
    strokes (.tick now :: rest) = strokes rest := rfl

@[simp] theorem strokes_layer (layer : Layer) (rest : List Call) :
    strokes (.layer layer :: rest) = strokes rest := rfl

@[simp] theorem strokes_capsWord (active : Bool) (rest : List Call) :
    strokes (.capsWord active :: rest) = strokes rest := rfl

theorem strokes_append (front back : List Call) :
    strokes (front ++ back) = strokes front ++ strokes back := by
  rw [strokes, events_append, List.map_append]
  rfl

theorem strokes_cons (call : Call) (rest : List Call) :
    strokes (call :: rest) = strokes [call] ++ strokes rest :=
  strokes_append [call] rest

end Call

/-- What reaches the mod-tap stage. -/
inductive Signal where
  | event (event : KeyEvent)
  /-- The clock is read without an event. -/
  | clock (now : Nat)

namespace Signal

/-- The event of a signal. -/
def event? : Signal → Option KeyEvent
  | .event e => some e
  | .clock _ => none

/-- The time of a signal. -/
def time : Signal → Nat
  | .event e => e.time
  | .clock now => now

/-- The events among some signals. -/
def events (signals : List Signal) : List KeyEvent :=
  signals.filterMap event?

@[simp] theorem events_nil : events [] = [] := rfl

@[simp] theorem events_event (event : KeyEvent) (rest : List Signal) :
    events (.event event :: rest) = event :: events rest := rfl

@[simp] theorem events_clock (now : Nat) (rest : List Signal) :
    events (.clock now :: rest) = events rest := rfl

@[simp] theorem events_append (front back : List Signal) :
    events (front ++ back) = events front ++ events back :=
  List.filterMap_append

@[simp] theorem events_map_event (list : List KeyEvent) :
    events (list.map .event) = list := by
  induction list with
  | nil => rfl
  | cons event rest ih => rw [List.map_cons, events_event, ih]

end Signal

/-! ## Times -/

/-- A release is no earlier than what comes before it. -/
def KeyEvent.InTime (events : List KeyEvent) : Prop :=
  events.Pairwise fun first second => second.action = .release → first.time ≤ second.time

namespace Signal

/-- A release is no earlier than the signals that come before it. -/
def InTime (signals : List Signal) : Prop :=
  signals.Pairwise fun first second =>
    ∀ e, second = .event e → e.action = .release → first.time ≤ e.time

theorem event?_eq_some_iff {signal : Signal} {e : KeyEvent} :
    signal.event? = some e ↔ signal = .event e := by
  cases signal <;> simp [event?]

theorem InTime.events {signals : List Signal} (h : InTime signals) :
    KeyEvent.InTime (Signal.events signals) := by
  induction signals with
  | nil => exact List.Pairwise.nil
  | cons signal rest ih =>
    obtain ⟨hfirst, hrest⟩ := List.pairwise_cons.mp h
    cases signal with
    | clock now => exact ih hrest
    | event first =>
      refine List.Pairwise.cons (fun second hmem hup => ?_) (ih hrest)
      obtain ⟨signal, hsignal, heq⟩ := List.mem_filterMap.mp hmem
      exact hfirst signal hsignal second (event?_eq_some_iff.mp heq) hup

end Signal

/-! ## The stages of the pipeline -/

namespace ChordDetector

/-- The signals that a call leads to. -/
def signal (detector : ChordDetector) : Call → ChordDetector × List Signal
  | .event event =>
    let (detector, events) := detector.feed event
    (detector, events.map .event)
  | .tick now =>
    let (detector, event?) := detector.tick now
    (detector, event?.toList.map .event ++ [.clock now])
  | .layer _ | .capsWord _ => (detector, [])

/-- The signals that calls lead to, in order. -/
def signalAll (detector : ChordDetector) : List Call → ChordDetector × List Signal
  | [] => (detector, [])
  | call :: rest =>
    let (detector, now) := detector.signal call
    let (detector, later) := detector.signalAll rest
    (detector, now ++ later)

end ChordDetector

namespace ModTapStage

/-- What a signal leads to. -/
def take (stage : ModTapStage) : Signal → ModTapStage × List StageOutput
  | .event event => stage.route event
  | .clock now => stage.expire now

/-- What signals lead to, in order. -/
def takeAll (stage : ModTapStage) : List Signal → ModTapStage × List StageOutput
  | [] => (stage, [])
  | signal :: rest =>
    let (stage, now) := stage.take signal
    let (stage, later) := stage.takeAll rest
    (stage, now ++ later)

@[simp] theorem takeAll_nil (stage : ModTapStage) : stage.takeAll [] = (stage, []) := rfl

theorem takeAll_cons (stage : ModTapStage) (signal : Signal) (rest : List Signal) :
    stage.takeAll (signal :: rest) =
      (((stage.take signal).1.takeAll rest).1,
        (stage.take signal).2 ++ ((stage.take signal).1.takeAll rest).2) := rfl

theorem takeAll_append (stage : ModTapStage) (front back : List Signal) :
    stage.takeAll (front ++ back) =
      (((stage.takeAll front).1.takeAll back).1,
        (stage.takeAll front).2 ++ ((stage.takeAll front).1.takeAll back).2) := by
  induction front generalizing stage with
  | nil => rfl
  | cons signal rest ih =>
    rw [List.cons_append, takeAll_cons, takeAll_cons, ih]
    simp only [List.append_assoc]

end ModTapStage

/-! ## Responses -/

attribute [ext] Response

namespace Response

@[simp] theorem empty_append (response : Response) : ∅ ++ response = response :=
  Response.ext rfl rfl

@[simp] theorem append_empty (response : Response) : response ++ ∅ = response :=
  Response.ext (List.append_nil _) (List.append_nil _)

theorem append_assoc (one two three : Response) :
    one ++ two ++ three = one ++ (two ++ three) :=
  Response.ext (List.append_assoc ..) (List.append_assoc ..)

end Response

namespace Engine

theorem settleAll_append (typist : Typist) (front back : List StageOutput) :
    settleAll typist (front ++ back) =
      ((settleAll (settleAll typist front).1 back).1,
        (settleAll typist front).2 ++ (settleAll (settleAll typist front).1 back).2) := by
  induction front generalizing typist with
  | nil => simp [settleAll]
  | cons output rest ih =>
    simp only [List.cons_append, settleAll, ih, Response.append_assoc]

/-! ## Calls -/

/-- What a call leads to. -/
def call (engine : Engine) : Call → Engine × Response
  | .event event => engine.feed event
  | .tick now => engine.tick now
  | .layer layer => engine.setLayer layer
  | .capsWord active => engine.setCapsWord active

/-- What calls lead to, in order. -/
def callAll (engine : Engine) : List Call → Engine × Response
  | [] => (engine, ∅)
  | call :: rest =>
    let (engine, now) := engine.call call
    let (engine, later) := engine.callAll rest
    (engine, now ++ later)

/-- The states that runs of a fresh engine lead to. -/
def Reachable (settings : EngineSettings) (engine : Engine) : Prop :=
  ∃ calls, ((new settings).callAll calls).1 = engine

/-- What leaves the mod-tap stage during a run. -/
def settled (engine : Engine) (calls : List Call) : List StageOutput :=
  (engine.modTaps.takeAll (engine.chords.signalAll calls).2).2

@[simp] theorem callAll_nil (engine : Engine) : engine.callAll [] = (engine, ∅) := rfl

theorem callAll_cons (engine : Engine) (call : Call) (rest : List Call) :
    engine.callAll (call :: rest) =
      (((engine.call call).1.callAll rest).1,
        (engine.call call).2 ++ ((engine.call call).1.callAll rest).2) := rfl

theorem callAll_append (engine : Engine) (front back : List Call) :
    engine.callAll (front ++ back) =
      (((engine.callAll front).1.callAll back).1,
        (engine.callAll front).2 ++ ((engine.callAll front).1.callAll back).2) := by
  induction front generalizing engine with
  | nil => simp
  | cons call rest ih =>
    rw [List.cons_append, callAll_cons, callAll_cons, ih]
    simp only [Response.append_assoc]

/-- Routing events is taking them in the mod-tap stage and typing what settles. -/
theorem routeAll_eq (engine : Engine) (events : List KeyEvent) :
    engine.routeAll events =
      let stage := engine.modTaps.takeAll (events.map .event)
      let typed := settleAll engine.typist stage.2
      ({ engine with modTaps := stage.1, typist := typed.1 }, typed.2) := by
  induction events generalizing engine with
  | nil => rfl
  | cons event rest ih =>
    simp only [routeAll, ih, List.map_cons, ModTapStage.takeAll_cons, settleAll_append]
    rfl

/-- A call goes through the chord detector, the mod-tap stage and the typist. -/
theorem call_chords (engine : Engine) (call : Call) :
    (engine.call call).1.chords = (engine.chords.signal call).1 := by
  cases call with
  | event event => simp [Engine.call, feed, routeAll_eq, ChordDetector.signal]
  | tick now => simp [Engine.call, tick, routeAll_eq, expire, ChordDetector.signal]
  | layer layer => rfl
  | capsWord active => rfl

theorem call_modTaps (engine : Engine) (call : Call) :
    (engine.call call).1.modTaps =
      (engine.modTaps.takeAll (engine.chords.signal call).2).1 := by
  cases call with
  | event event => simp [Engine.call, feed, routeAll_eq, ChordDetector.signal]
  | tick now =>
    simp [Engine.call, tick, routeAll_eq, expire, ChordDetector.signal,
      ModTapStage.takeAll_append, ModTapStage.takeAll_cons, ModTapStage.take]
  | layer layer => rfl
  | capsWord active => rfl

/-- An event or a tick has the typist type what leaves the mod-tap stage. -/
theorem call_typist (engine : Engine) (call : Call) (h : call.time?.isSome) :
    ((engine.call call).1.typist, (engine.call call).2) =
      settleAll engine.typist (engine.modTaps.takeAll (engine.chords.signal call).2).2 := by
  cases call with
  | event event => simp [Engine.call, feed, routeAll_eq, ChordDetector.signal]
  | tick now =>
    simp [Engine.call, tick, routeAll_eq, expire, ChordDetector.signal,
      ModTapStage.takeAll_append, ModTapStage.takeAll_cons, ModTapStage.take,
      settleAll_append]
  | layer layer => simp [Call.time?] at h
  | capsWord active => simp [Call.time?] at h

/-- An event or a tick goes through all three. -/
theorem call_eq (engine : Engine) {call : Call} (h : call.time?.isSome) :
    let signals := engine.chords.signal call
    let settled := engine.modTaps.takeAll signals.2
    let typed := settleAll engine.typist settled.2
    engine.call call =
      ({ chords := signals.1, modTaps := settled.1, typist := typed.1 }, typed.2) := by
  intro signals settled typed
  obtain ⟨htypist, hresponse⟩ := Prod.mk.inj (engine.call_typist call h)
  rw [← htypist, ← hresponse, ← call_chords, ← call_modTaps]

theorem callAll_chords (engine : Engine) (calls : List Call) :
    (engine.callAll calls).1.chords = (engine.chords.signalAll calls).1 := by
  induction calls generalizing engine with
  | nil => rfl
  | cons call rest ih =>
    rw [callAll_cons]
    show ((engine.call call).1.callAll rest).1.chords = _
    rw [ih, call_chords]
    rfl

theorem settled_cons (engine : Engine) (call : Call) (rest : List Call) :
    engine.settled (call :: rest) =
      (engine.modTaps.takeAll (engine.chords.signal call).2).2 ++
        (engine.call call).1.settled rest := by
  simp only [settled, ChordDetector.signalAll, ModTapStage.takeAll_append, call_modTaps,
    call_chords]

/-- The mod-tap stage sees only the signals. -/
theorem callAll_modTaps (engine : Engine) (calls : List Call) :
    (engine.callAll calls).1.modTaps =
      (engine.modTaps.takeAll (engine.chords.signalAll calls).2).1 := by
  induction calls generalizing engine with
  | nil => rfl
  | cons call rest ih =>
    rw [callAll_cons]
    show ((engine.call call).1.callAll rest).1.modTaps = _
    rw [ih, call_chords, call_modTaps]
    simp only [ChordDetector.signalAll, ModTapStage.takeAll_append]

/-- In a run of events and ticks the typist sees only what leaves the mod-tap stage. -/
theorem callAll_typist (engine : Engine) (calls : List Call)
    (h : ∀ call ∈ calls, call.time?.isSome) :
    ((engine.callAll calls).1.typist, (engine.callAll calls).2) =
      settleAll engine.typist (engine.settled calls) := by
  induction calls generalizing engine with
  | nil => rfl
  | cons call rest ih =>
    have hcall := engine.call_typist call (h call (by simp))
    have hrest := ih (engine.call call).1 fun c hc => h c (by simp [hc])
    rw [settled_cons, settleAll_append, ← hcall, ← hrest, callAll_cons]

theorem settled_append (engine : Engine) (front back : List Call) :
    engine.settled (front ++ back) =
      engine.settled front ++ (engine.callAll front).1.settled back := by
  induction front generalizing engine with
  | nil => rfl
  | cons call rest ih =>
    rw [List.cons_append, settled_cons, ih, settled_cons, callAll_cons, List.append_assoc]

end Engine

end Keymap
