import Keymap.Proofs.ModTap.Backlog

/-!
# The procedures of the mod-tap stage

Taking in an event is a recursion: the clock is checked, which may settle the pending mod-tap,
and the event is let in, which may settle it as well; a settle routes the buffer again, and each
event of it checks the clock and is let in. `ModTapStage.run` does the same with a list of tasks.
This file has the recursion itself, so that it can be said which procedures are called, and on
which stages.

- `Procedure`, `Entry`: what can be called, and a call together with the stage that it finds.
- `Executes`: what a call leads to, and the calls that it makes. A derivation is a finite tree
  of calls, so a call that has one comes to an end.
- `Executes.conserves`: **a press of a mod-tap is settled by one call or waits.**
- `executes_run`: working through tasks is executing them.
- `ends_within_unsettled`: **taking in an event and checking the clock come to an end**, and
  settle no more mod-taps than wait.
-/

namespace Keymap

namespace ModTapStage

/-- What the stage can be called to do. -/
inductive Procedure where
  /-- Take in an event. -/
  | route (event : KeyEvent)
  /-- Let an event in; the clock has been checked. -/
  | accept (event : KeyEvent)
  /-- Check the clock. -/
  | expire (now : Nat)
  /-- Settle the pending mod-tap as a tap: it comes up. -/
  | tap (release : KeyEvent)
  /-- Settle the pending mod-tap as a hold. -/
  | hold
  /-- Do tasks in order. -/
  | work (tasks : List Task)

/-- What a task calls. -/
def Task.procedure : Task → Procedure
  | route event => .route event
  | accept event => .accept event

/-- The events that a procedure is given. -/
def Procedure.events : Procedure → List KeyEvent
  | route event | accept event => [event]
  | expire _ | tap _ | hold => []
  | work tasks => tasks.map Task.event

theorem Task.events_procedure (task : Task) : task.procedure.events = [task.event] := by
  cases task <;> rfl

/-- A call, and the stage that it finds. -/
structure Entry where
  procedure : Procedure
  stage : ModTapStage

/-- Whether a call takes the pending mod-tap and settles it. -/
def Entry.settles : Entry → Bool
  | ⟨.tap _, _⟩ | ⟨.hold, _⟩ => true
  | _ => false

/-- How many of some calls settle a mod-tap. -/
def settleCount (entries : List Entry) : Nat :=
  entries.countP Entry.settles

@[simp] theorem settleCount_nil : settleCount [] = 0 := rfl

@[simp] theorem settleCount_append (front back : List Entry) :
    settleCount (front ++ back) = settleCount front + settleCount back :=
  List.countP_append

theorem settleCount_of_settles {entry : Entry} (h : entry.settles = true) (rest : List Entry) :
    settleCount (entry :: rest) = settleCount rest + 1 :=
  List.countP_cons_of_pos h

theorem settleCount_of_not_settles {entry : Entry} (h : entry.settles = false)
    (rest : List Entry) : settleCount (entry :: rest) = settleCount rest :=
  List.countP_cons_of_neg (Bool.eq_false_iff.mp h)

/-- The stage once an event waits behind the pending mod-tap. -/
def enqueue (stage : ModTapStage) (pending : PendingModTap) (event : KeyEvent) : ModTapStage :=
  { stage with pending := some { pending with buffer := pending.buffer ++ [event] } }

/-- `Executes procedure stage final outputs entries`: a call of `procedure` finds `stage` and
leaves `final`, puts out `outputs`, and makes the calls `entries`, itself the first of them. The
loop over tasks is no call. -/
inductive Executes :
    Procedure → ModTapStage → ModTapStage → List StageOutput → List Entry → Prop where
  | route {event : KeyEvent} {stage middle final : ModTapStage} {one two : List StageOutput}
      {checks accepts : List Entry}
      (hcheck : Executes (.expire event.time) stage middle one checks)
      (haccept : Executes (.accept event) middle final two accepts) :
      Executes (.route event) stage final (one ++ two)
        (⟨.route event, stage⟩ :: (checks ++ accepts))
  /-- The term of the pending mod-tap has run out. -/
  | expired {now : Nat} {stage final : ModTapStage} {pending : PendingModTap}
      {outputs : List StageOutput} {entries : List Entry}
      (hp : stage.pending = some pending)
      (hterm : stage.timers.isPastTerm pending.modTap.key now = true)
      (hhold : Executes .hold stage final outputs entries) :
      Executes (.expire now) stage final outputs (⟨.expire now, stage⟩ :: entries)
  | unexpired {now : Nat} {stage : ModTapStage}
      (hterm : ∀ pending, stage.pending = some pending →
        stage.timers.isPastTerm pending.modTap.key now = false) :
      Executes (.expire now) stage stage [] [⟨.expire now, stage⟩]
  /-- The pending mod-tap comes up. -/
  | own {event : KeyEvent} {stage final : ModTapStage} {pending : PendingModTap}
      {outputs : List StageOutput} {entries : List Entry}
      (hp : stage.pending = some pending) (hup : event.stroke = .up pending.modTap.key)
      (htap : Executes (.tap event) stage final outputs entries) :
      Executes (.accept event) stage final outputs (⟨.accept event, stage⟩ :: entries)
  /-- A key that went down behind the pending mod-tap comes up. -/
  | nested {event : KeyEvent} {stage final : ModTapStage} {pending : PendingModTap}
      {outputs : List StageOutput} {entries : List Entry}
      (hp : stage.pending = some pending) (hother : event.stroke ≠ .up pending.modTap.key)
      (hnested : PendingModTap.isNested pending event = true)
      (hhold : Executes .hold (stage.enqueue pending event) final outputs entries) :
      Executes (.accept event) stage final outputs (⟨.accept event, stage⟩ :: entries)
  /-- Any other event waits behind the pending mod-tap. -/
  | wait {event : KeyEvent} {stage : ModTapStage} {pending : PendingModTap}
      (hp : stage.pending = some pending) (hother : event.stroke ≠ .up pending.modTap.key)
      (hnested : PendingModTap.isNested pending event = false) :
      Executes (.accept event) stage (stage.enqueue pending event) []
        [⟨.accept event, stage⟩]
  /-- No mod-tap is pending. -/
  | free {event : KeyEvent} {stage : ModTapStage} (hp : stage.pending = none) :
      Executes (.accept event) stage (stage.acceptFree event).stage
        (stage.acceptFree event).outputs [⟨.accept event, stage⟩]
  | tap {release : KeyEvent} {stage final : ModTapStage} {pending : PendingModTap}
      {outputs : List StageOutput} {entries : List Entry}
      (hp : stage.pending = some pending)
      (hwork : Executes (.work (pending.buffer.map .route))
        (stage.settleTap pending release).stage final outputs entries) :
      Executes (.tap release) stage final ((stage.settleTap pending release).outputs ++ outputs)
        (⟨.tap release, stage⟩ :: entries)
  | hold {stage final : ModTapStage} {pending : PendingModTap} {outputs : List StageOutput}
      {entries : List Entry} (hp : stage.pending = some pending)
      (hwork : Executes (.work (pending.buffer.map .route)) (stage.holding pending) final outputs
        entries) :
      Executes .hold stage final (stage.holdOutput pending :: outputs)
        (⟨.hold, stage⟩ :: entries)
  | done {stage : ModTapStage} : Executes (.work []) stage stage [] []
  | next {task : Task} {rest : List Task} {stage middle final : ModTapStage}
      {one two : List StageOutput} {entries entries' : List Entry}
      (hfirst : Executes task.procedure stage middle one entries)
      (hrest : Executes (.work rest) middle final two entries') :
      Executes (.work (task :: rest)) stage final (one ++ two) (entries ++ entries')

namespace Executes

variable {procedure : Procedure} {stage final final' : ModTapStage}
  {outputs outputs' : List StageOutput} {entries entries' : List Entry}

/-! ## How often something is settled -/

/-- What is let in while no mod-tap is pending settles nothing; a mod-tap that goes down waits. -/
theorem unsettled_acceptFree {event : KeyEvent} (hp : stage.pending = none) :
    (stage.acceptFree event).stage.unsettled = stage.unsettled + presses [event] := by
  have hnone : stage.unsettled = 0 := by rw [unsettled, hp]
  rw [hnone, Nat.zero_add, acceptFree]
  cases hkey : ModTap.ofKey? event.key with
  | none => simp [hnone, presses, hkey]
  | some modTap =>
    cases hpress : event.isPress with
    | true => simp [start, unsettled, presses, hkey, hpress]
    | false =>
      have hlift : (stage.lift modTap).stage.pending = none := by
        unfold lift
        split <;> exact hp
      simp [unsettled, hlift, presses, hpress]

theorem unsettled_enqueue {pending : PendingModTap} (hp : stage.pending = some pending)
    (event : KeyEvent) :
    (stage.enqueue pending event).unsettled = stage.unsettled + presses [event] := by
  simp only [enqueue, unsettled, hp, presses_append]
  omega

/-- Once the pending mod-tap is taken, what waited behind it is to be routed again. -/
theorem unsettled_of_replay {middle : ModTapStage} {pending : PendingModTap}
    (hp : stage.pending = some pending) (hafter : middle.pending = none) :
    stage.unsettled =
      middle.unsettled + presses (Procedure.work (pending.buffer.map .route)).events + 1 := by
  simp only [unsettled, hp, hafter, Procedure.events, events_route]
  omega

/-- **A press of a mod-tap is settled by one call or waits.** -/
theorem conserves (h : Executes procedure stage final outputs entries) :
    settleCount entries + final.unsettled = stage.unsettled + presses procedure.events := by
  -- only a settle takes a mod-tap away, and only an event that is let in adds one
  induction h with
  | @route event _ _ _ _ _ _ _ hcheck haccept ihcheck ihaccept =>
    rw [settleCount_of_not_settles rfl, settleCount_append]
    have hcheck' : (Procedure.expire event.time).events = [] := rfl
    rw [hcheck', presses_nil] at ihcheck
    show _ = _ + presses (Procedure.accept event).events
    omega
  | expired hp hterm hhold ih =>
    rw [settleCount_of_not_settles rfl]
    exact ih
  | unexpired hterm =>
    rw [settleCount_of_not_settles rfl, settleCount_nil, Nat.zero_add]
    rfl
  | @own event _ _ _ _ _ hp hup htap ih =>
    have hrelease : presses [event] = 0 :=
      presses_singleton_of_isRelease (isRelease_iff.mpr (congrArg Stroke.action hup))
    rw [settleCount_of_not_settles rfl]
    show _ = _ + presses [event]
    rw [hrelease]
    exact ih
  | @nested event _ _ _ _ _ hp hother hnested hhold ih =>
    rw [unsettled_enqueue hp] at ih
    rw [settleCount_of_not_settles rfl]
    exact ih
  | wait hp hother hnested =>
    rw [settleCount_of_not_settles rfl, settleCount_nil, Nat.zero_add]
    exact unsettled_enqueue hp _
  | free hp =>
    rw [settleCount_of_not_settles rfl, settleCount_nil, Nat.zero_add]
    exact unsettled_acceptFree hp
  | @tap release stage _ pending _ _ hp hwork ih =>
    have hafter : (stage.settleTap pending release).stage.pending = none := rfl
    rw [settleCount_of_settles rfl, unsettled_of_replay hp hafter]
    show _ = _ + presses []
    rw [presses_nil]
    omega
  | @hold stage _ pending _ _ hp hwork ih =>
    have hafter : (stage.holding pending).pending = none := rfl
    rw [settleCount_of_settles rfl, unsettled_of_replay hp hafter]
    show _ = _ + presses []
    rw [presses_nil]
    omega
  | done => rw [settleCount_nil, Nat.zero_add]; rfl
  | @next task rest _ _ _ _ _ _ _ hfirst hrest ihfirst ihrest =>
    have hevents : presses (Procedure.work (task :: rest)).events =
        presses task.procedure.events + presses (Procedure.work rest).events := by
      rw [task.events_procedure]
      exact presses_cons task.event _
    rw [settleCount_append, hevents]
    omega

/-- An event that goes down settles nothing when it is let in. -/
theorem settleCount_of_press {event : KeyEvent}
    (h : Executes (.accept event) stage final outputs entries) (hdown : event.action = .press) :
    settleCount entries = 0 := by
  cases h with
  | own hp hup htap => exact nomatch hdown.symm.trans (congrArg Stroke.action hup)
  | nested hp hother hnested hhold => exact nomatch hdown.symm.trans (isNested_iff.mp hnested).1
  | wait hp hother hnested => rfl
  | free hp => rfl

/-- Checking the clock settles no more mod-taps than wait. -/
theorem settleCount_expire {now : Nat} (h : Executes (.expire now) stage final outputs entries) :
    settleCount entries ≤ stage.unsettled := by
  have hconserves := h.conserves
  have hevents : presses (Procedure.expire now).events = 0 := rfl
  omega

/-- Taking in an event settles no more mod-taps than wait: if the event goes down it is still to
be settled, and if it comes up it is none to be settled. -/
theorem settleCount_route {event : KeyEvent}
    (h : Executes (.route event) stage final outputs entries) :
    settleCount entries ≤ stage.unsettled := by
  cases haction : event.action with
  | press =>
    -- the event itself would count in `conserves`, but only the check of the clock settles here
    cases h with
    | route hcheck haccept =>
      rw [settleCount_of_not_settles rfl, settleCount_append,
        haccept.settleCount_of_press haction]
      exact hcheck.settleCount_expire
  | release =>
    have hevents : presses [event] = 0 :=
      presses_singleton_of_isRelease (isRelease_iff.mpr haction)
    have hconserves := h.conserves
    rw [show (Procedure.route event).events = [event] from rfl, hevents] at hconserves
    omega

/-! ## Every call comes to one end -/

/-- A call comes to one end in one way. -/
theorem unique (h : Executes procedure stage final outputs entries)
    (h' : Executes procedure stage final' outputs' entries') :
    final' = final ∧ outputs' = outputs ∧ entries' = entries := by
  -- the conditions of the branches exclude each other, so both calls take the same branch
  induction h generalizing final' outputs' entries' with
  | route hcheck haccept ihcheck ihaccept =>
    cases h' with
    | route hcheck' haccept' =>
      obtain ⟨rfl, rfl, rfl⟩ := ihcheck hcheck'
      obtain ⟨rfl, rfl, rfl⟩ := ihaccept haccept'
      exact ⟨rfl, rfl, rfl⟩
  | expired hp hterm hhold ih =>
    cases h' with
    | expired hp' hterm' hhold' =>
      obtain ⟨rfl, rfl, rfl⟩ := ih hhold'
      exact ⟨rfl, rfl, rfl⟩
    | unexpired hterm' => exact nomatch hterm.symm.trans (hterm' _ hp)
  | unexpired hterm =>
    cases h' with
    | expired hp' hterm' hhold' => exact nomatch hterm'.symm.trans (hterm _ hp')
    | unexpired hterm' => exact ⟨rfl, rfl, rfl⟩
  | own hp hup htap ih =>
    cases h' with
    | own hp' hup' htap' =>
      obtain ⟨rfl, rfl, rfl⟩ := ih htap'
      exact ⟨rfl, rfl, rfl⟩
    | nested hp' hother' hnested' hhold' | wait hp' hother' hnested' =>
      obtain rfl := Option.some.inj (hp.symm.trans hp')
      exact absurd hup hother'
    | free hp' => exact nomatch hp.symm.trans hp'
  | nested hp hother hnested hhold ih =>
    cases h' with
    | own hp' hup' htap' =>
      obtain rfl := Option.some.inj (hp.symm.trans hp')
      exact absurd hup' hother
    | nested hp' hother' hnested' hhold' =>
      obtain rfl := Option.some.inj (hp.symm.trans hp')
      obtain ⟨rfl, rfl, rfl⟩ := ih hhold'
      exact ⟨rfl, rfl, rfl⟩
    | wait hp' hother' hnested' =>
      obtain rfl := Option.some.inj (hp.symm.trans hp')
      exact nomatch hnested.symm.trans hnested'
    | free hp' => exact nomatch hp.symm.trans hp'
  | wait hp hother hnested =>
    cases h' with
    | own hp' hup' htap' =>
      obtain rfl := Option.some.inj (hp.symm.trans hp')
      exact absurd hup' hother
    | nested hp' hother' hnested' hhold' =>
      obtain rfl := Option.some.inj (hp.symm.trans hp')
      exact nomatch hnested.symm.trans hnested'
    | wait hp' hother' hnested' =>
      obtain rfl := Option.some.inj (hp.symm.trans hp')
      exact ⟨rfl, rfl, rfl⟩
    | free hp' => exact nomatch hp.symm.trans hp'
  | free hp =>
    cases h' with
    | own hp' | nested hp' | wait hp' => exact nomatch hp.symm.trans hp'
    | free hp' => exact ⟨rfl, rfl, rfl⟩
  | tap hp hwork ih =>
    cases h' with
    | tap hp' hwork' =>
      obtain rfl := Option.some.inj (hp.symm.trans hp')
      obtain ⟨rfl, rfl, rfl⟩ := ih hwork'
      exact ⟨rfl, rfl, rfl⟩
  | hold hp hwork ih =>
    cases h' with
    | hold hp' hwork' =>
      obtain rfl := Option.some.inj (hp.symm.trans hp')
      obtain ⟨rfl, rfl, rfl⟩ := ih hwork'
      exact ⟨rfl, rfl, rfl⟩
  | done =>
    cases h' with
    | done => exact ⟨rfl, rfl, rfl⟩
  | next hfirst hrest ihfirst ihrest =>
    cases h' with
    | next hfirst' hrest' =>
      obtain ⟨rfl, rfl, rfl⟩ := ihfirst hfirst'
      obtain ⟨rfl, rfl, rfl⟩ := ihrest hrest'
      exact ⟨rfl, rfl, rfl⟩

/-- What a call comes to, it comes to alone. -/
theorem iff_eq {result : ModTapStage × List StageOutput}
    (h : Executes procedure stage result.1 result.2 entries) :
    Executes procedure stage final outputs entries' ↔
      (final, outputs) = result ∧ entries' = entries := by
  constructor
  · intro h'
    obtain ⟨hfinal, houtputs, hentries⟩ := h.unique h'
    exact ⟨Prod.ext hfinal houtputs, hentries⟩
  · rintro ⟨heq, rfl⟩
    rwa [← heq] at h

/-- Tasks are done in order. -/
theorem work_append {front back : List Task}
    (h : Executes (.work (front ++ back)) stage final outputs entries) :
    ∃ middle one two entries₁ entries₂, Executes (.work front) stage middle one entries₁ ∧
      Executes (.work back) middle final two entries₂ ∧ outputs = one ++ two := by
  induction front generalizing stage outputs entries with
  | nil => exact ⟨stage, [], outputs, [], entries, .done, h, rfl⟩
  | cons task rest ih =>
    cases h with
    | next hfirst hrest =>
      obtain ⟨middle, one, two, _, _, hone, htwo, rfl⟩ := ih hrest
      exact ⟨middle, _, two, _, _, .next hfirst hone, htwo, (List.append_assoc ..).symm⟩

end Executes

/-! ## Letting an event in, by the state that it finds -/

section

variable {stage : ModTapStage} {pending : PendingModTap} {event : KeyEvent}

theorem accept_own (hp : stage.pending = some pending)
    (hup : event.stroke = .up pending.modTap.key) :
    stage.accept event = stage.settleTap pending event := by
  simp only [accept, hp, acceptBehind]
  exact if_pos (by simpa [stroke_eq_up_iff] using hup)

/-- An event that is not the release of the pending mod-tap waits or completes a key. -/
theorem accept_other (hp : stage.pending = some pending)
    (hother : event.stroke ≠ .up pending.modTap.key) :
    stage.accept event =
      if PendingModTap.isNested pending event then
        { stage := stage.holding pending
          outputs := [stage.holdOutput pending]
          again := pending.buffer ++ [event] }
      else { stage := stage.enqueue pending event } := by
  simp only [accept, hp, acceptBehind]
  exact if_neg (by simpa [stroke_eq_up_iff] using hother)

theorem accept_free (hp : stage.pending = none) :
    stage.accept event = stage.acceptFree event := by
  simp only [accept, hp]

/-- What is let in while no mod-tap is pending leaves nothing to route again. -/
theorem again_acceptFree (stage : ModTapStage) (event : KeyEvent) :
    (stage.acceptFree event).again = [] := by
  unfold acceptFree lift
  split
  · split
    · rfl
    · split <;> rfl
  · rfl

end

/-! ## Every call comes to an end -/

/-- A step that lets an event in, and the tasks that it gives back, are a call. -/
theorem executes_accept {stage final : ModTapStage} {event : KeyEvent}
    {outputs : List StageOutput} {entries : List Entry}
    (h : Executes (.work ((stage.accept event).again.map .route)) (stage.accept event).stage final
      outputs entries) :
    ∃ entries', Executes (.accept event) stage final ((stage.accept event).outputs ++ outputs)
      entries' := by
  cases hp : stage.pending with
  | some pending =>
    by_cases hown : event.stroke = .up pending.modTap.key
    · rw [accept_own hp hown] at h ⊢
      exact ⟨_, .own hp hown (.tap hp h)⟩
    · rw [accept_other hp hown] at h ⊢
      cases hnested : PendingModTap.isNested pending event with
      | true =>
        -- the hold finds the event at the end of the buffer
        rw [hnested] at h
        exact ⟨_, .nested hp hown hnested (@Executes.hold (stage.enqueue pending event) final
          { pending with buffer := pending.buffer ++ [event] } _ _ rfl h)⟩
      | false =>
        rw [hnested] at h
        cases h with
        | done => exact ⟨_, .wait hp hown hnested⟩
  | none =>
    rw [accept_free hp, again_acceptFree] at h
    rw [accept_free hp]
    cases h with
    | done =>
      rw [List.append_nil]
      exact ⟨_, .free hp⟩

/-- A check of the clock that settles nothing is a call. -/
theorem executes_unexpired {stage : ModTapStage} {now : Nat} (h : stage.expired? now = none) :
    Executes (.expire now) stage stage [] [⟨.expire now, stage⟩] :=
  .unexpired (expired?_eq_none_iff.mp h)

/-- A check of the clock that settles the pending mod-tap is a call, with the buffer that is
routed again. -/
theorem executes_expired {stage final : ModTapStage} {now : Nat} {pending : PendingModTap}
    {outputs : List StageOutput} {entries : List Entry} (h : stage.expired? now = some pending)
    (hwork : Executes (.work (pending.buffer.map .route)) (stage.holding pending) final outputs
      entries) :
    ∃ entries', Executes (.expire now) stage final (stage.holdOutput pending :: outputs)
      entries' :=
  ⟨_, .expired (expired?_eq_some_iff.mp h).1 (expired?_eq_some_iff.mp h).2
    (.hold (expired?_eq_some_iff.mp h).1 hwork)⟩

/-- Once the clock is checked, the event is let in and the other tasks are done. -/
theorem executes_route {stage middle final : ModTapStage} {event : KeyEvent} {rest : List Task}
    {one two : List StageOutput} {checks others : List Entry}
    (hcheck : Executes (.expire event.time) stage middle one checks)
    (hothers : Executes (.work (.accept event :: rest)) middle final two others) :
    ∃ entries, Executes (.work (.route event :: rest)) stage final (one ++ two) entries := by
  cases hothers with
  | next haccept hrest =>
    rw [← List.append_assoc]
    exact ⟨_, .next (.route hcheck haccept) hrest⟩

/-- **Working through tasks is executing them.** -/
theorem executes_run (stage : ModTapStage) (tasks : List Task) :
    ∃ entries, Executes (.work tasks) stage (stage.run tasks).1 (stage.run tasks).2 entries := by
  induction stage, tasks using run.induct with
  | case1 stage =>
    rw [run_nil]
    exact ⟨[], .done⟩
  | case2 stage event rest pending hexpired step final outputs _ ih =>
    -- the buffer stands in front of the other tasks; its part of the work is that of the check
    obtain ⟨_, hwork⟩ := ih
    obtain ⟨_, one, two, _, _, hbuffer, hothers, houtputs⟩ := hwork.work_append
    obtain ⟨_, hcheck⟩ := executes_expired hexpired hbuffer
    rw [run_route_of_expired rest hexpired]
    have hall := executes_route hcheck hothers
    rw [List.cons_append, ← houtputs] at hall
    exact hall
  | case3 stage event rest hexpired ih =>
    obtain ⟨_, hwork⟩ := ih
    rw [run_route_of_not_expired rest hexpired]
    exact executes_route (executes_unexpired hexpired) hwork
  | case4 stage event rest step final outputs _ ih =>
    obtain ⟨_, hwork⟩ := ih
    obtain ⟨_, one, two, _, _, hagain, hrest, houtputs⟩ := hwork.work_append
    obtain ⟨_, haccept⟩ := executes_accept hagain
    have hall := @Executes.next (.accept event) _ _ _ _ _ _ _ _ haccept hrest
    rw [List.append_assoc, ← houtputs] at hall
    rw [run_accept]
    exact ⟨_, hall⟩

/-- A call to take in an event does what `route` does. -/
theorem executes_route_event (stage : ModTapStage) (event : KeyEvent) :
    ∃ entries, Executes (.route event) stage (stage.route event).1 (stage.route event).2
      entries := by
  obtain ⟨_, hwork⟩ := stage.executes_run [.route event]
  rw [← route] at hwork
  generalize (stage.route event).2 = outputs at hwork ⊢
  cases hwork with
  | next hfirst hrest =>
    cases hrest with
    | done =>
      rw [List.append_nil]
      exact ⟨_, hfirst⟩

/-- A call to check the clock does what `expire` does. -/
theorem executes_expire (stage : ModTapStage) (now : Nat) :
    ∃ entries, Executes (.expire now) stage (stage.expire now).1 (stage.expire now).2 entries := by
  rw [expire_eq]
  cases hexpired : stage.expired? now with
  | none => exact ⟨_, executes_unexpired hexpired⟩
  | some pending =>
    obtain ⟨_, hwork⟩ := (stage.holding pending).executes_run (pending.buffer.map .route)
    obtain ⟨_, hexpire⟩ := executes_expired hexpired hwork
    rw [if_pos (Option.isSome_some), settleFirst_of_pending (expired?_eq_some_iff.mp hexpired).1]
    exact ⟨_, hexpire⟩

/-- **Taking in an event and checking the clock come to an end, and settle no more mod-taps than
wait.** From whatever stage, with whatever pending mod-tap, buffer and timers, the call has one
finite tree of calls, which does what the stage does; of the calls in it that settle a mod-tap
there are no more than presses of mod-taps that waited before, the pending one and those in its
buffer. -/
theorem ends_within_unsettled (stage : ModTapStage) :
    (∀ event, ∃ entries, settleCount entries ≤ stage.unsettled ∧
      ∀ final outputs entries', Executes (.route event) stage final outputs entries' ↔
        (final, outputs) = stage.route event ∧ entries' = entries) ∧
    ∀ now, ∃ entries, settleCount entries ≤ stage.unsettled ∧
      ∀ final outputs entries', Executes (.expire now) stage final outputs entries' ↔
        (final, outputs) = stage.expire now ∧ entries' = entries := by
  constructor
  · intro event
    obtain ⟨entries, h⟩ := stage.executes_route_event event
    exact ⟨entries, h.settleCount_route, fun _ _ _ => h.iff_eq⟩
  · intro now
    obtain ⟨entries, h⟩ := stage.executes_expire now
    exact ⟨entries, h.settleCount_expire, fun _ _ _ => h.iff_eq⟩

end ModTapStage

end Keymap
