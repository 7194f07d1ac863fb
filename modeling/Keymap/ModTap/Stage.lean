import Keymap.Event
import Keymap.HoldTimer
import Keymap.ModTap.Basic

/-!
# Settling mod-taps

While it is not known whether a mod-tap that is down will be a tap or a hold,
it is *pending*, and every later event is kept in a buffer behind it. It settles

- as a tap, when it comes up: its tap key is typed, then the buffer is routed
  again;
- as a hold, when its term runs out, or when a key is pressed and released
  behind it: its modifier is held, then the buffer is routed again.

Routing the buffer again may meet the press of another mod-tap, which becomes
pending in turn and captures what follows.

- `ModTapStage`: the timers, the pending mod-tap with its buffer, and the
  mod-taps that are held.
- `StageOutput`: what leaves the stage.
- `ModTapStage.route`: an event goes in.
- `ModTapStage.expire`: the clock advances.

Each settle uses up one mod-tap press that was waiting, `unsettled` counts them,
and so `run` ends.
-/

namespace Keymap

/-- A mod-tap that is down and not settled, and the events behind it. -/
structure PendingModTap where
  modTap : ModTap
  buffer : List KeyEvent := []
  deriving DecidableEq

/-- What leaves the mod-tap stage. -/
inductive StageOutput where
  /-- An event of an ordinary key, with the modifiers of held mod-taps added. -/
  | pass (event : KeyEvent)
  /-- A mod-tap settled as a tap: the press and the release of its tap key. -/
  | tap (modTap : ModTap) (press release : KeyEvent)
  /-- A mod-tap settled as a hold; `first` if no other holds its modifier. -/
  | hold (modTap : ModTap) (first : Bool)
  /-- A held mod-tap came up; `last` if no other holds its modifier. -/
  | lift (modTap : ModTap) (last : Bool)
  deriving DecidableEq

/-- The state of the mod-tap stage. -/
structure ModTapStage where
  timers : HoldTimers := {}
  pending : Option PendingModTap := none
  /-- The mod-taps that are held, oldest first. -/
  held : List ModTap := []
  deriving DecidableEq

namespace ModTapStage

/-- The modifiers that held mod-taps contribute. -/
def mods (stage : ModTapStage) : ModMask :=
  stage.held.foldl (fun mods modTap => mods ∪ modTap.mask) ∅

/-- Whether a held mod-tap holds a modifier. -/
def holdsModifier (stage : ModTapStage) (m : Modifier) : Bool :=
  stage.held.any fun modTap => modTap.modifier == m

/-- What a step of the stage leads to: the next state, what leaves the stage,
and the events that are to be routed again before anything else. -/
structure Step where
  stage : ModTapStage
  outputs : List StageOutput := []
  again : List KeyEvent := []

/-- The pending mod-tap, if its term has run out. -/
def expired? (stage : ModTapStage) (now : Nat) : Option PendingModTap :=
  stage.pending.filter fun pending => stage.timers.isPastTerm pending.modTap.key now

/-- A mod-tap settles as a hold. -/
def settleHold (stage : ModTapStage) (pending : PendingModTap) : Step where
  stage :=
    { timers := (stage.timers.take pending.modTap.key).1
      pending := none
      held := stage.held ++ [pending.modTap] }
  outputs := [.hold pending.modTap (!stage.holdsModifier pending.modTap.modifier)]
  again := pending.buffer

/-- A mod-tap settles as a tap when it comes up: the tap key is pressed at the
time and with the modifiers of its own press. -/
def settleTap (stage : ModTapStage) (pending : PendingModTap) (event : KeyEvent) : Step :=
  let (timers, _, record?) := stage.timers.release event.key event.time
  let time := (record?.map PressRecord.time).getD event.time
  let mods := (record?.map PressRecord.mods).getD event.mods
  let tapKey := pending.modTap.tap
  { stage := { stage with timers := timers, pending := none }
    outputs := [.tap pending.modTap
      ((KeyEvent.press tapKey mods time).withMods stage.mods)
      ((KeyEvent.release tapKey mods event.time).withMods stage.mods)]
    again := pending.buffer }

/-- Whether an event completes a key that went down behind the mod-tap. -/
def PendingModTap.isNested (pending : PendingModTap) (event : KeyEvent) : Bool :=
  event.isRelease && pending.buffer.any fun held => held.isPress && held.key == event.key

/-- An event while a mod-tap is pending. -/
def acceptBehind (stage : ModTapStage) (pending : PendingModTap) (event : KeyEvent) : Step :=
  if event.isRelease && event.key == pending.modTap.key then stage.settleTap pending event
  else
    let longer := { pending with buffer := pending.buffer ++ [event] }
    if PendingModTap.isNested pending event then stage.settleHold longer
    else { stage := { stage with pending := some longer } }

/-- A mod-tap goes down while none is pending. -/
def start (stage : ModTapStage) (modTap : ModTap) (event : KeyEvent) : ModTapStage :=
  let record : PressRecord := ⟨event.time, event.mods ∪ stage.mods, false⟩
  { stage with
    timers := stage.timers.press modTap.key record, pending := some { modTap := modTap } }

/-- A mod-tap comes up while none is pending. One that is not held is ignored. -/
def lift (stage : ModTapStage) (modTap : ModTap) : Step :=
  if stage.held.any fun held => held.key == modTap.key then
    let rest := { stage with held := stage.held.eraseP fun held => held.key == modTap.key }
    { stage := rest, outputs := [.lift modTap (!rest.holdsModifier modTap.modifier)] }
  else { stage := stage }

/-- An event while no mod-tap is pending. -/
def acceptFree (stage : ModTapStage) (event : KeyEvent) : Step :=
  match ModTap.ofKey? event.key with
  | some modTap =>
    if event.isPress then { stage := stage.start modTap event } else stage.lift modTap
  | none => { stage := stage, outputs := [.pass (event.withMods stage.mods)] }

/-- An event, once the pending mod-tap has been checked against the clock. -/
def accept (stage : ModTapStage) (event : KeyEvent) : Step :=
  match stage.pending with
  | some pending => stage.acceptBehind pending event
  | none => stage.acceptFree event

/-! ## Routing -/

/-- Something the stage still has to do with an event. -/
inductive Task where
  /-- Check the clock first, then accept. -/
  | route (event : KeyEvent)
  /-- Accept; the clock has been checked. -/
  | accept (event : KeyEvent)

namespace Task

/-- The event of a task. -/
def event : Task → KeyEvent
  | route event => event
  | accept event => event

/-- How many turns a task takes if nothing settles. -/
def turns : Task → Nat
  | route _ => 2
  | accept _ => 1

end Task

/-- How many mod-tap presses are among some events. -/
def presses (events : List KeyEvent) : Nat :=
  events.countP fun event => event.isPress && (ModTap.ofKey? event.key).isSome

/-- How many mod-tap presses wait to be settled: the pending one and those in
its buffer. -/
def unsettled (stage : ModTapStage) : Nat :=
  match stage.pending with
  | some pending => 1 + presses pending.buffer
  | none => 0

@[simp] theorem presses_nil : presses [] = 0 := rfl

@[simp] theorem presses_append (front back : List KeyEvent) :
    presses (front ++ back) = presses front + presses back :=
  List.countP_append

theorem presses_cons (event : KeyEvent) (rest : List KeyEvent) :
    presses (event :: rest) = presses [event] + presses rest :=
  presses_append [event] rest

theorem presses_singleton_of_isRelease {event : KeyEvent} (h : event.isRelease = true) :
    presses [event] = 0 := by
  have : event.isPress = false := by
    simp only [KeyEvent.isRelease, beq_iff_eq] at h
    simp [KeyEvent.isPress, h]
  simp [presses, this]

/-- A mod-tap that settles as a hold was one of those that wait. -/
theorem unsettled_settleHold (stage : ModTapStage) (pending : PendingModTap) :
    (stage.settleHold pending).stage.unsettled +
      presses (stage.settleHold pending).again = presses pending.buffer := by
  simp [settleHold, unsettled]

/-- Accepting an event settles a mod-tap, and then one fewer waits, or leaves
nothing to route again. -/
theorem unsettled_accept (stage : ModTapStage) (event : KeyEvent) :
    let step := stage.accept event
    let before := stage.unsettled + presses [event]
    step.stage.unsettled + presses step.again < before ∨
      (step.stage.unsettled + presses step.again ≤ before ∧ step.again = []) := by
  cases hp : stage.pending with
  | some pending =>
    simp only [accept, hp, acceptBehind]
    split
    · left
      simp only [settleTap, unsettled, hp]
      omega
    · split
      · next hn =>
        left
        have hr : event.isRelease = true := by
          simp only [PendingModTap.isNested, Bool.and_eq_true] at hn
          exact hn.1
        rw [unsettled_settleHold]
        simp only [unsettled, hp, presses_append, presses_singleton_of_isRelease hr]
        omega
      · right
        simp [unsettled, hp]
        omega
  | none =>
    right
    simp only [accept, hp, acceptFree]
    split
    · next modTap hk =>
      split
      · next hpress =>
        refine ⟨?_, rfl⟩
        simp [start, unsettled, presses, hpress, hk]
      · simp only [lift]
        split <;> simp [unsettled, hp]
    · simp [unsettled, hp]

/-- How many mod-tap presses wait, in the stage or in its tasks. -/
def waiting (stage : ModTapStage) (tasks : List Task) : Nat :=
  stage.unsettled + presses (tasks.map Task.event)

/-- How many turns the tasks take if nothing settles. -/
def turns : List Task → Nat
  | [] => 0
  | task :: rest => task.turns + turns rest

theorem waiting_route_append (stage : ModTapStage) (events : List KeyEvent) (tasks : List Task) :
    stage.waiting (events.map .route ++ tasks) = stage.waiting tasks + presses events := by
  have hm : (events.map Task.route).map Task.event = events := by
    simp [Function.comp_def, Task.event]
  simp only [waiting, List.map_append, hm, presses_append]
  omega

theorem waiting_cons (stage : ModTapStage) (task : Task) (tasks : List Task) :
    stage.waiting (task :: tasks) = stage.waiting tasks + presses [task.event] := by
  simp only [waiting, List.map_cons]
  rw [presses_cons]
  omega

theorem waiting_route_cons (stage : ModTapStage) (event : KeyEvent) (tasks : List Task) :
    stage.waiting (.route event :: tasks) = stage.waiting (.accept event :: tasks) := rfl

/-- A hold that the clock settles uses up a waiting mod-tap press. -/
theorem waiting_settleHold_lt {stage : ModTapStage} {now : Nat} {pending : PendingModTap}
    (h : stage.expired? now = some pending) (tasks : List Task) :
    (stage.settleHold pending).stage.waiting
      ((stage.settleHold pending).again.map .route ++ tasks) < stage.waiting tasks := by
  have hp : stage.unsettled = 1 + presses pending.buffer := by
    simp only [expired?, Option.filter_eq_some_iff] at h
    simp [unsettled, h.1]
  have hs := stage.unsettled_settleHold pending
  rw [waiting_route_append]
  simp only [waiting]
  omega

/-- Accepting an event uses up a waiting mod-tap press or a turn. -/
theorem waiting_accept (stage : ModTapStage) (event : KeyEvent) (tasks : List Task) :
    Prod.Lex (· < ·) (· < ·)
      ((stage.accept event).stage.waiting ((stage.accept event).again.map .route ++ tasks),
        turns ((stage.accept event).again.map .route ++ tasks))
      (stage.waiting (.accept event :: tasks), turns (.accept event :: tasks)) := by
  have hw := waiting_cons stage (.accept event) tasks
  have hr := waiting_route_append (stage.accept event).stage (stage.accept event).again tasks
  simp only [waiting, Task.event] at hw hr
  rcases stage.unsettled_accept event with hlt | ⟨hle, hnil⟩
  · apply Prod.Lex.left
    simp only [waiting]
    omega
  · by_cases he : (stage.accept event).stage.unsettled + presses (stage.accept event).again
        = stage.unsettled + presses [event]
    · have heq : (stage.accept event).stage.waiting
          ((stage.accept event).again.map .route ++ tasks)
          = stage.waiting (.accept event :: tasks) := by
        simp only [waiting]
        omega
      rw [heq, hnil]
      apply Prod.Lex.right
      simp [turns, Task.turns]
    · apply Prod.Lex.left
      simp only [waiting]
      omega

/-- Works through tasks in order; what a settle gives back comes first. -/
def run (stage : ModTapStage) : List Task → ModTapStage × List StageOutput
  | [] => (stage, [])
  | .route event :: rest =>
    match _expires : stage.expired? event.time with
    | some pending =>
      let step := stage.settleHold pending
      let (final, outputs) := run step.stage (step.again.map .route ++ .accept event :: rest)
      (final, step.outputs ++ outputs)
    | none => run stage (.accept event :: rest)
  | .accept event :: rest =>
    let step := stage.accept event
    let (final, outputs) := run step.stage (step.again.map .route ++ rest)
    (final, step.outputs ++ outputs)
termination_by tasks => (stage.waiting tasks, turns tasks)
decreasing_by
  · apply Prod.Lex.left
    rw [waiting_route_cons]
    exact waiting_settleHold_lt _expires _
  · rw [waiting_route_cons]
    apply Prod.Lex.right
    simp [turns, Task.turns]
  · exact stage.waiting_accept event rest

/-- Takes in one event. -/
def route (stage : ModTapStage) (event : KeyEvent) : ModTapStage × List StageOutput :=
  stage.run [.route event]

/-- Settles the pending mod-tap if its term has run out. -/
def expire (stage : ModTapStage) (now : Nat) : ModTapStage × List StageOutput :=
  match stage.expired? now with
  | some pending =>
    let step := stage.settleHold pending
    let (final, outputs) := step.stage.run (step.again.map .route)
    (final, step.outputs ++ outputs)
  | none => (stage, [])

end ModTapStage

end Keymap
