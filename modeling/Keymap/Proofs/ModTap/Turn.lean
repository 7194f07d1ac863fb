import Keymap.ModTap.Stage
import Keymap.Proofs.Strokes

/-!
# What the mod-tap stage does in one turn

`ModTapStage.run` works through tasks, one turn at a time. This file says once
what a turn can do, so that later proofs are case analyses of `Turn` and need
not open the stage again.

- `Turn`: the ten turns, with what they put out and what is left to do.
- `run_induction`: what the empty run has and every turn keeps, each run has.
- `run_append`: tasks are worked through in order.
- `settleFirst`: the pending mod-tap is settled as a hold, whatever the clock
  says, and what was behind it is routed again.
-/

namespace Keymap

namespace ModTapStage

/-- The stage once the pending mod-tap is held, before its buffer is routed. -/
def holding (stage : ModTapStage) (pending : PendingModTap) : ModTapStage where
  timers := stage.timers.forget pending.modTap.key
  pending := none
  held := stage.held ++ [pending.modTap]

/-- What the host is told of the pending mod-tap when it is held. -/
def holdOutput (stage : ModTapStage) (pending : PendingModTap) : StageOutput :=
  .hold pending.modTap (!stage.holdsModifier pending.modTap.modifier)

/-- One turn of the stage: the first task, what is put out, the stage after it
and the tasks that are left. -/
inductive Turn (stage : ModTapStage) :
    List Task → List StageOutput → ModTapStage → List Task → Prop where
  /-- The clock settles the pending mod-tap; the event is then let in. -/
  | expire {pending : PendingModTap} {event : KeyEvent} {rest : List Task}
      (hp : stage.pending = some pending)
      (hterm : stage.timers.isPastTerm pending.modTap.key event.time = true) :
      Turn stage (.route event :: rest) [stage.holdOutput pending] (stage.holding pending)
        (pending.buffer.map .route ++ .accept event :: rest)
  /-- The clock settles nothing. -/
  | check {event : KeyEvent} {rest : List Task}
      (hterm : ∀ pending, stage.pending = some pending →
        stage.timers.isPastTerm pending.modTap.key event.time = false) :
      Turn stage (.route event :: rest) [] stage (.accept event :: rest)
  /-- The pending mod-tap comes up: a tap. -/
  | tap {pending : PendingModTap} {event : KeyEvent} {rest : List Task}
      (hp : stage.pending = some pending) (hup : event.stroke = .up pending.modTap.key) :
      Turn stage (.accept event :: rest) (stage.settleTap pending event).outputs
        (stage.settleTap pending event).stage (pending.buffer.map .route ++ rest)
  /-- A key that went down behind the pending mod-tap comes up: a hold. -/
  | nested {pending : PendingModTap} {event : KeyEvent} {rest : List Task}
      (hp : stage.pending = some pending) (hother : event.key ≠ pending.modTap.key)
      (hup : event.action = .release)
      (hdown : .down event.key ∈ pending.buffer.map KeyEvent.stroke) :
      Turn stage (.accept event :: rest) [stage.holdOutput pending] (stage.holding pending)
        ((pending.buffer ++ [event]).map .route ++ rest)
  /-- Any other event waits behind the pending mod-tap. -/
  | wait {pending : PendingModTap} {event : KeyEvent} {rest : List Task}
      (hp : stage.pending = some pending) (hother : event.stroke ≠ .up pending.modTap.key)
      (hfree : event.action = .release →
        .down event.key ∉ pending.buffer.map KeyEvent.stroke) :
      Turn stage (.accept event :: rest) []
        { stage with pending := some { pending with buffer := pending.buffer ++ [event] } } rest
  /-- A mod-tap goes down and is pending. -/
  | start {modTap : ModTap} {event : KeyEvent} {rest : List Task}
      (hp : stage.pending = none) (hkey : ModTap.ofKey? event.key = some modTap)
      (hdown : event.action = .press) :
      Turn stage (.accept event :: rest) [] (stage.start modTap event) rest
  /-- A held mod-tap comes up. -/
  | lift {modTap : ModTap} {event : KeyEvent} {rest : List Task}
      (hp : stage.pending = none) (hkey : ModTap.ofKey? event.key = some modTap)
      (hup : event.action = .release)
      (hheld : (stage.held.any fun held => held.key == modTap.key) = true) :
      Turn stage (.accept event :: rest) (stage.lift modTap).outputs (stage.lift modTap).stage rest
  /-- A mod-tap that is not held comes up. -/
  | stray {modTap : ModTap} {event : KeyEvent} {rest : List Task}
      (hp : stage.pending = none) (hkey : ModTap.ofKey? event.key = some modTap)
      (hup : event.action = .release)
      (hheld : (stage.held.any fun held => held.key == modTap.key) = false) :
      Turn stage (.accept event :: rest) [] stage rest
  /-- An event of an ordinary key passes. -/
  | pass {event : KeyEvent} {rest : List Task}
      (hp : stage.pending = none) (hkey : ModTap.ofKey? event.key = none) :
      Turn stage (.accept event :: rest) [.pass (event.withMods stage.mods)] stage rest

theorem stroke_eq_up_iff {event : KeyEvent} {key : Key} :
    event.stroke = .up key ↔ event.isRelease = true ∧ event.key = key := by
  simp [KeyEvent.stroke, Stroke.up, KeyEvent.isRelease, and_comm]

theorem stroke_eq_down_iff {event : KeyEvent} {key : Key} :
    event.stroke = .down key ↔ event.isPress = true ∧ event.key = key := by
  simp [KeyEvent.stroke, Stroke.down, KeyEvent.isPress, and_comm]

theorem isRelease_iff {event : KeyEvent} : event.isRelease = true ↔ event.action = .release := by
  simp [KeyEvent.isRelease]

theorem isNested_iff {pending : PendingModTap} {event : KeyEvent} :
    PendingModTap.isNested pending event = true ↔
      event.action = .release ∧ .down event.key ∈ pending.buffer.map KeyEvent.stroke := by
  simp only [PendingModTap.isNested, Bool.and_eq_true, isRelease_iff, List.any_eq_true, beq_iff_eq,
    List.mem_map, stroke_eq_down_iff]

/-- Letting an event in is a turn. -/
theorem turn_accept (stage : ModTapStage) (event : KeyEvent) (rest : List Task) :
    Turn stage (.accept event :: rest) (stage.accept event).outputs (stage.accept event).stage
      ((stage.accept event).again.map .route ++ rest) := by
  cases hp : stage.pending with
  | some pending =>
    simp only [accept, hp, acceptBehind]
    by_cases hown : event.stroke = .up pending.modTap.key
    · rw [if_pos (by simpa [stroke_eq_up_iff] using hown)]
      exact .tap hp hown
    · have hguard : ¬(event.isRelease && event.key == pending.modTap.key) = true := by
        simpa [stroke_eq_up_iff] using hown
      rw [if_neg hguard]
      by_cases hn : PendingModTap.isNested pending event = true
      · rw [if_pos hn]
        obtain ⟨hup, hdown⟩ := isNested_iff.mp hn
        -- the release is not the mod-tap's own, that was the case before
        refine .nested hp (fun hk => hown ?_) hup hdown
        exact stroke_eq_up_iff.mpr ⟨isRelease_iff.mpr hup, hk⟩
      · rw [if_neg hn]
        exact .wait hp hown fun hup hdown => hn (isNested_iff.mpr ⟨hup, hdown⟩)
  | none =>
    simp only [accept, hp, acceptFree]
    cases hkey : ModTap.ofKey? event.key with
    | none => exact .pass hp hkey
    | some modTap =>
      cases haction : event.action with
      | press =>
        simp only [KeyEvent.isPress, haction, beq_self_eq_true, if_true]
        exact .start hp hkey haction
      | release =>
        -- a release lifts the mod-tap if it is held, and is lost if it is not
        have hpress : ¬event.isPress = true := by simp [KeyEvent.isPress, haction]
        simp only [if_neg hpress]
        cases hheld : stage.held.any fun held => held.key == modTap.key with
        | true =>
          have hagain : (stage.lift modTap).again = [] := by simp [ModTapStage.lift, hheld]
          rw [hagain]
          exact .lift hp hkey haction hheld
        | false =>
          simp only [ModTapStage.lift, hheld]
          exact .stray hp hkey haction hheld

/-- A tap takes the modifiers and the time of its press from the timers. -/
theorem settleTap_of_record {stage : ModTapStage} {pending : PendingModTap}
    {press event : KeyEvent} (hkey : event.key = pending.modTap.key)
    (hget : stage.timers.get? pending.modTap.key =
      some ⟨press.time, press.mods ∪ stage.mods, false⟩) :
    stage.settleTap pending event =
      { stage :=
          { stage with timers := stage.timers.forget pending.modTap.key, pending := none }
        outputs := [.tap pending.modTap
          ((KeyEvent.press pending.modTap.tap press.mods press.time).withMods stage.mods)
          ((KeyEvent.release pending.modTap.tap press.mods event.time).withMods stage.mods)]
        again := pending.buffer } := by
  simp [settleTap, HoldTimers.release, hget, hkey, KeyEvent.withMods, KeyEvent.press,
    KeyEvent.release, ModMask.union_assoc]

@[simp] theorem run_nil (stage : ModTapStage) : stage.run [] = (stage, []) := by
  rw [run]

theorem run_accept (stage : ModTapStage) (event : KeyEvent) (rest : List Task) :
    stage.run (.accept event :: rest) =
      let step := stage.accept event
      let later := step.stage.run (step.again.map .route ++ rest)
      (later.1, step.outputs ++ later.2) := by
  rw [run]

theorem run_route_of_expired {stage : ModTapStage} {event : KeyEvent} {pending : PendingModTap}
    (rest : List Task) (h : stage.expired? event.time = some pending) :
    stage.run (.route event :: rest) =
      let later := (stage.holding pending).run
        (pending.buffer.map .route ++ .accept event :: rest)
      (later.1, stage.holdOutput pending :: later.2) := by
  rw [run]
  split
  · next other hother =>
    rw [h] at hother
    cases hother
    rfl
  · next hnone =>
    rw [h] at hnone
    cases hnone

theorem run_route_of_not_expired {stage : ModTapStage} {event : KeyEvent} (rest : List Task)
    (h : stage.expired? event.time = none) :
    stage.run (.route event :: rest) = stage.run (.accept event :: rest) := by
  rw [run]
  split
  · next other hother =>
    rw [h] at hother
    cases hother
  · rfl

theorem expired?_eq_some_iff {stage : ModTapStage} {now : Nat} {pending : PendingModTap} :
    stage.expired? now = some pending ↔
      stage.pending = some pending ∧ stage.timers.isPastTerm pending.modTap.key now = true := by
  simp [expired?, Option.filter_eq_some_iff]

theorem expired?_eq_none_iff {stage : ModTapStage} {now : Nat} :
    stage.expired? now = none ↔
      ∀ pending, stage.pending = some pending →
        stage.timers.isPastTerm pending.modTap.key now = false := by
  simp [expired?, Option.filter_eq_none_iff]

/-- **Runs by turns**: what holds of the run without tasks, and holds of a run
when it holds of the run after its first turn, holds of every run. -/
theorem run_induction
    {motive : ModTapStage → List Task → ModTapStage → List StageOutput → Prop}
    (nil : ∀ stage, motive stage [] stage [])
    (turn : ∀ {stage tasks outputs next left final later},
      Turn stage tasks outputs next left → motive next left final later →
        motive stage tasks final (outputs ++ later))
    (stage : ModTapStage) (tasks : List Task) :
    motive stage tasks (stage.run tasks).1 (stage.run tasks).2 := by
  induction stage, tasks using run.induct with
  | case1 stage =>
    rw [run_nil]
    exact nil stage
  | case2 stage event rest pending hexpired step final outputs _ ih =>
    rw [run_route_of_expired rest hexpired]
    obtain ⟨hp, hterm⟩ := expired?_eq_some_iff.mp hexpired
    exact turn (.expire hp hterm) ih
  | case3 stage event rest hexpired ih =>
    rw [run_route_of_not_expired rest hexpired]
    exact turn (.check (expired?_eq_none_iff.mp hexpired)) ih
  | case4 stage event rest step final outputs _ ih =>
    rw [run_accept]
    exact turn (stage.turn_accept event rest) ih

/-- Tasks are worked through in order. -/
theorem run_append (stage : ModTapStage) (front back : List Task) :
    stage.run (front ++ back) =
      (((stage.run front).1.run back).1,
        (stage.run front).2 ++ ((stage.run front).1.run back).2) := by
  induction stage, front using run.induct with
  | case1 stage => simp
  | case2 stage event rest pending hexpired step final outputs _ ih =>
    rw [List.append_assoc, List.cons_append] at ih
    rw [List.cons_append, run_route_of_expired _ hexpired, run_route_of_expired _ hexpired]
    exact congrArg (fun later => (later.1, stage.holdOutput pending :: later.2)) ih
  | case3 stage event rest hexpired ih =>
    rw [List.cons_append, run_route_of_not_expired _ hexpired,
      run_route_of_not_expired _ hexpired]
    exact ih
  | case4 stage event rest step final outputs _ ih =>
    rw [List.append_assoc] at ih
    rw [List.cons_append, run_accept, run_accept]
    simp only [List.append_assoc]
    exact congrArg (fun later => (later.1, (stage.accept event).outputs ++ later.2)) ih

/-! ## Settling without the clock -/

/-- The pending mod-tap is held, whatever the clock says, and what was behind it
is routed again. -/
def settleFirst (stage : ModTapStage) : ModTapStage × List StageOutput :=
  match stage.pending with
  | some pending =>
    let later := (stage.holding pending).run (pending.buffer.map .route)
    (later.1, stage.holdOutput pending :: later.2)
  | none => (stage, [])

theorem settleFirst_of_pending {stage : ModTapStage} {pending : PendingModTap}
    (hp : stage.pending = some pending) :
    stage.settleFirst =
      (((stage.holding pending).run (pending.buffer.map .route)).1,
        stage.holdOutput pending ::
          ((stage.holding pending).run (pending.buffer.map .route)).2) := by
  simp [settleFirst, hp]

/-- Reading the clock settles the pending mod-tap if its term has run out. -/
theorem expire_eq (stage : ModTapStage) (now : Nat) :
    stage.expire now =
      if (stage.expired? now).isSome then stage.settleFirst else (stage, []) := by
  rw [expire]
  split
  · next pending hexpired =>
    rw [settleFirst_of_pending (expired?_eq_some_iff.mp hexpired).1, hexpired]
    rfl
  · next hexpired =>
    rw [hexpired]
    rfl

/-- An event that finds the pending mod-tap past its term is let in once that is
settled and what was behind it is routed again. -/
theorem route_of_expired {stage : ModTapStage} {event : KeyEvent}
    (h : (stage.expired? event.time).isSome) :
    stage.route event =
      ((stage.settleFirst.1.run [.accept event]).1,
        stage.settleFirst.2 ++ (stage.settleFirst.1.run [.accept event]).2) := by
  obtain ⟨pending, hexpired⟩ := Option.isSome_iff_exists.mp h
  rw [route, run_route_of_expired _ hexpired, run_append,
    settleFirst_of_pending (expired?_eq_some_iff.mp hexpired).1]
  rfl

end ModTapStage

end Keymap
