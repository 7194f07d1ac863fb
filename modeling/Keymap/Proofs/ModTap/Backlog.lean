import Keymap.Proofs.ModTap.Settlement
import Keymap.Proofs.Run

/-!
# The backlog of the mod-tap stage

What a stage has taken in and not settled is a queue: the press of the pending
mod-tap and what waits behind it. Buffering puts events at the end of the queue
and settling takes them from its front, so a run of the stage is a `Settlement`.

- `Backlog stage queue`: `queue` is what the stage still has to settle. The
  timers hold a record of the press at its front and no other, and no key in it
  goes down and comes up.
- `Turn.settles`: what one turn does to the backlog.
- `run_settles`, `takeAll_settles`: **every run of the stage settles its backlog
  and what it takes in, in order**, whatever it buffers and replays on the way.
-/

namespace Keymap

namespace ModTapStage

/-- `queue` is the press of the pending mod-tap and what waits behind it. -/
inductive Waits (stage : ModTapStage) : List KeyEvent → Prop where
  | free (hp : stage.pending = none) (ht : stage.timers.records = []) : Waits stage []
  | behind {pending : PendingModTap} {press : KeyEvent}
      (hp : stage.pending = some pending)
      (hkey : ModTap.ofKey? press.key = some pending.modTap) (hdown : press.action = .press)
      (ht : stage.timers.records =
        [(press.key, ⟨press.time, press.mods ∪ stage.mods, false⟩)]) :
      Waits stage (press :: pending.buffer)

/-- `queue` is what the stage still has to settle. -/
structure Backlog (stage : ModTapStage) (queue : List KeyEvent) : Prop where
  waits : Waits stage queue
  /-- No key in it goes down and comes up: that would have settled something. -/
  unnested : Stroke.Unnested (queue.map KeyEvent.stroke)
  genuine : ModTap.Genuine stage.held

/-- A fresh stage has nothing to settle. -/
theorem backlog_fresh (term : Nat) :
    Backlog { timers := { term := term } } [] where
  waits := .free rfl rfl
  unnested := Stroke.unnested_nil
  genuine := fun _ hmem => by cases hmem

/-- While a mod-tap is pending, the backlog starts with its press. -/
theorem Backlog.of_pending {stage : ModTapStage} {pending : PendingModTap}
    {queue : List KeyEvent} (h : Backlog stage queue) (hp : stage.pending = some pending) :
    ∃ press, queue = press :: pending.buffer ∧ press.key = pending.modTap.key ∧
      press.action = .press ∧ ModTap.ofKey? press.key = some pending.modTap ∧
      stage.timers.records =
        [(press.key, ⟨press.time, press.mods ∪ stage.mods, false⟩)] := by
  cases h.waits with
  | free hp' _ => simp [hp] at hp'
  | behind hp' hkey hdown ht =>
    obtain rfl : _ = pending := Option.some.inj (hp'.symm.trans hp)
    exact ⟨_, rfl, (ModTap.key_of_ofKey? hkey).symm, hdown, hkey, ht⟩

/-- While none is pending, the backlog and the timers are empty. -/
theorem Backlog.of_free {stage : ModTapStage} {queue : List KeyEvent}
    (h : Backlog stage queue) (hp : stage.pending = none) :
    queue = [] ∧ stage.timers.records = [] := by
  cases h.waits with
  | free _ ht => exact ⟨rfl, ht⟩
  | behind hp' _ _ _ => simp [hp] at hp'

/-- The clock settles the pending mod-tap exactly when its term has gone by since
its press. -/
theorem Backlog.isPastTerm_iff {stage : ModTapStage} {press : KeyEvent} {rest : List KeyEvent}
    {pending : PendingModTap} (h : Backlog stage (press :: rest))
    (hp : stage.pending = some pending) (now : Nat) :
    stage.timers.isPastTerm pending.modTap.key now = true ↔
      stage.timers.term ≤ now - press.time := by
  obtain ⟨press', hq, hown, -, -, ht⟩ := h.of_pending hp
  obtain ⟨rfl, -⟩ := List.cons.inj hq
  simp only [HoldTimers.isPastTerm, HoldTimers.get?, ht, ← hown, List.lookup_cons_self,
    decide_eq_true_eq]

/-- The release of the pending mod-tap is still to come. -/
theorem Backlog.up_not_mem {stage : ModTapStage} {press : KeyEvent} {rest : List KeyEvent}
    (h : Backlog stage (press :: rest)) (hdown : press.action = .press) :
    .up press.key ∉ rest.map KeyEvent.stroke :=
  (Stroke.unnested_cons.mp h.unnested).1 press.key (by simp [KeyEvent.stroke, Stroke.down, hdown])

/-- A reading of the clock that settles the pending mod-tap makes it overdue. -/
theorem Backlog.overdue {stage : ModTapStage} {press : KeyEvent} {rest future : List KeyEvent}
    {pending : PendingModTap} {ordered : Prop} {now : Nat} (h : Backlog stage (press :: rest))
    (hp : stage.pending = some pending) (hdown : press.action = .press)
    (hterm : stage.timers.isPastTerm pending.modTap.key now = true)
    (hfuture : ordered → ∀ event ∈ future, event.action = .release → now ≤ event.time) :
    Overdue stage.timers.term ordered press (rest ++ future) := by
  refine ⟨now, (h.isPastTerm_iff hp now).mp hterm, fun ho event hmem hup => ?_⟩
  rcases List.mem_append.mp hmem with hmem | hmem
  · exact absurd (List.mem_map.mpr ⟨event, hmem, hup⟩) (h.up_not_mem hdown)
  · exact hfuture ho event hmem (congrArg Stroke.action hup)

/-- Once the pending mod-tap is held, nothing waits in the stage: what was behind
it is routed again. -/
theorem Backlog.holding {stage : ModTapStage} {pending : PendingModTap} {queue : List KeyEvent}
    (h : Backlog stage queue) (hp : stage.pending = some pending) :
    Backlog (stage.holding pending) [] := by
  obtain ⟨press, -, hown, -, hkey, ht⟩ := h.of_pending hp
  refine ⟨.free rfl ?_, Stroke.unnested_nil, h.genuine.hold hkey⟩
  simp [ModTapStage.holding, HoldTimers.forget, ht, hown]

/-- An event that completes no key waits at the end of the backlog. -/
theorem Backlog.wait {stage : ModTapStage} {pending : PendingModTap} {press event : KeyEvent}
    (h : Backlog stage (press :: pending.buffer)) (hp : stage.pending = some pending)
    (hother : event.stroke ≠ .up pending.modTap.key)
    (hfree : event.action = .release → .down event.key ∉ pending.buffer.map KeyEvent.stroke) :
    Backlog
      { stage with pending := some { pending with buffer := pending.buffer ++ [event] } }
      (press :: (pending.buffer ++ [event])) := by
  obtain ⟨first, hq, hown, hdown, hkey, ht⟩ := h.of_pending hp
  obtain ⟨rfl, -⟩ := List.cons.inj hq
  refine ⟨?_, ?_, h.genuine⟩
  · exact @Waits.behind _ { pending with buffer := pending.buffer ++ [event] } press rfl hkey
      hdown ht
  · rw [← List.cons_append, List.map_append, Stroke.unnested_append]
    refine ⟨h.unnested, by simp [Stroke.Unnested], ?_⟩
    intro key hkeydown hkeyup
    have hrelease : event.stroke = .up key := (List.mem_singleton.mp hkeyup).symm
    -- the event would complete the mod-tap itself, or a key behind it
    rcases List.mem_cons.mp hkeydown with hfirst | hbehind
    · have hsame : key = press.key := congrArg Stroke.key hfirst
      exact hother (by rw [hrelease, ← hown, hsame])
    · obtain ⟨hup, rfl⟩ := stroke_eq_up_iff.mp hrelease
      exact hfree (isRelease_iff.mp hup) hbehind

/-- A tap takes the modifiers and the time of its press from the timers. -/
theorem Backlog.settleTap {stage : ModTapStage} {pending : PendingModTap}
    {press event : KeyEvent} (h : Backlog stage (press :: pending.buffer))
    (hp : stage.pending = some pending) (hkey : event.key = pending.modTap.key) :
    stage.settleTap pending event =
      { stage :=
          { stage with timers := stage.timers.forget pending.modTap.key, pending := none }
        outputs := [.tap pending.modTap
          ((KeyEvent.press pending.modTap.tap press.mods press.time).withMods stage.mods)
          ((KeyEvent.release pending.modTap.tap press.mods event.time).withMods stage.mods)]
        again := pending.buffer } := by
  obtain ⟨press', hq, hown, -, -, ht⟩ := h.of_pending hp
  obtain ⟨rfl, -⟩ := List.cons.inj hq
  refine settleTap_of_record hkey ?_
  rw [HoldTimers.get?, ht, ← hown, List.lookup_cons_self]

/-- After a tap nothing waits in the stage. -/
theorem Backlog.after_settleTap {stage : ModTapStage} {pending : PendingModTap}
    {queue : List KeyEvent} (h : Backlog stage queue) (hp : stage.pending = some pending) :
    Backlog { stage with timers := stage.timers.forget pending.modTap.key, pending := none }
      [] := by
  obtain ⟨press, -, hown, -, -, ht⟩ := h.of_pending hp
  refine ⟨.free rfl ?_, Stroke.unnested_nil, h.genuine⟩
  simp [HoldTimers.forget, ht, hown]

variable {ordered : Prop} {stage next : ModTapStage} {queue : List KeyEvent}
  {tasks left : List Task} {outputs : List StageOutput}

/-- The events of tasks that route events again are those events. -/
theorem events_route (events : List KeyEvent) :
    (events.map Task.route).map Task.event = events := by
  rw [List.map_map]
  exact List.map_id'' (fun _ => rfl) events

/-- **One turn settles in order**: what the turn leaves to be settled is what
there was to be settled before, less what it puts out. -/
theorem Turn.settles (turn : Turn stage tasks outputs next left) (hb : Backlog stage queue)
    (future : List KeyEvent)
    (hord : ordered → KeyEvent.InTime (queue ++ (tasks.map Task.event ++ future))) :
    next.timers.term = stage.timers.term ∧ ∃ queue', Backlog next queue' ∧
      Settlement stage.timers.term ordered stage.held
        (queue ++ (tasks.map Task.event ++ future)) outputs next.held
        (queue' ++ (left.map Task.event ++ future)) := by
  cases turn with
  | @expire pending event rest hp hterm =>
    obtain ⟨press, rfl, hown, hdown, hkey, -⟩ := hb.of_pending hp
    refine ⟨rfl, [], hb.holding hp, ?_⟩
    -- the clock is read at the event, which is no later than a release after it
    have hover : Overdue stage.timers.term ordered press
        (pending.buffer ++ (event :: (rest.map Task.event ++ future))) := by
      refine hb.overdue hp hdown hterm fun ho release hmem hup => ?_
      have htime := hord ho
      simp only [List.cons_append, List.map_cons, Task.event] at htime
      rcases List.mem_cons.mp hmem with rfl | hmem
      · exact Nat.le_refl _
      · have hpair := (List.pairwise_append.mp (List.pairwise_cons.mp htime).2).2.1
        exact (List.pairwise_cons.mp hpair).1 release hmem hup
    rw [List.map_append, events_route, List.append_assoc]
    exact .hold hkey hdown (.inr hover) (.stop _ _)
  | check hterm => exact ⟨rfl, queue, hb, .stop _ _⟩
  | @tap pending event rest hp hup =>
    obtain ⟨press, rfl, hown, hdown, hkey, -⟩ := hb.of_pending hp
    have hfree := (Stroke.unnested_cons.mp hb.unnested).2
    rw [hb.settleTap hp (congrArg Stroke.key hup)]
    refine ⟨rfl, [], hb.after_settleTap hp, ?_⟩
    rw [List.map_append, events_route, List.append_assoc]
    exact .tap hkey hdown (hown ▸ hup) (hb.up_not_mem hdown) hfree (.stop _ _)
  | @nested pending event rest hp hother hup hnested =>
    obtain ⟨press, rfl, hown, hdown, hkey, -⟩ := hb.of_pending hp
    refine ⟨rfl, [], hb.holding hp, ?_⟩
    -- the key that went down in the buffer comes up before the mod-tap does
    have hinside : ¬Stroke.Unnested ((insideHold press.key
        (pending.buffer ++ (event :: (rest.map Task.event ++ future)))).map
          KeyEvent.stroke) := by
      rw [insideHold_append (hb.up_not_mem hdown), insideHold_cons_of_ne (hown ▸ hother),
        List.map_append, List.map_cons, Stroke.unnested_append]
      rintro ⟨-, -, h⟩
      exact h event.key hnested (by simp [KeyEvent.stroke, Stroke.up, hup])
    rw [List.map_append, events_route, List.append_assoc, List.append_assoc]
    exact .hold hkey hdown (.inl hinside) (.stop _ _)
  | @wait pending event rest hp hother hfree =>
    obtain ⟨press, rfl, -⟩ := hb.of_pending hp
    refine ⟨rfl, press :: (pending.buffer ++ [event]), hb.wait hp hother hfree, ?_⟩
    simp only [List.cons_append, List.append_assoc, List.map_cons, Task.event, List.nil_append]
    exact .stop _ _
  | @start modTap event rest hp hkey hdown =>
    obtain ⟨rfl, ht⟩ := hb.of_free hp
    refine ⟨rfl, [event], ⟨?_, by simp [Stroke.Unnested], hb.genuine⟩, .stop _ _⟩
    refine @Waits.behind _ { modTap := modTap } event rfl hkey hdown ?_
    simp only [ModTapStage.start, HoldTimers.press, HoldTimers.forget, ht,
      ModTap.key_of_ofKey? hkey, List.filter_nil]
    rfl
  | @lift modTap event rest hp hkey hup hheld =>
    obtain ⟨rfl, ht⟩ := hb.of_free hp
    have hlift : stage.lift modTap =
        { stage :=
            { stage with held := stage.held.eraseP fun held => held.key == modTap.key }
          outputs := [.lift modTap (!ModTap.anyHolds
            (stage.held.eraseP fun held => held.key == modTap.key) modTap.modifier)] } := by
      rw [ModTapStage.lift, if_pos hheld]
      rfl
    rw [hlift]
    exact ⟨rfl, [], ⟨.free hp ht, Stroke.unnested_nil, hb.genuine.lift _⟩,
      .lift hkey hup hheld (.stop _ _)⟩
  | @stray modTap event rest hp hkey hup hheld =>
    obtain ⟨rfl, ht⟩ := hb.of_free hp
    exact ⟨rfl, [], hb, .stray hkey hup hheld (.stop _ _)⟩
  | @pass event rest hp hkey =>
    obtain ⟨rfl, ht⟩ := hb.of_free hp
    exact ⟨rfl, [], hb, .pass hkey (.stop _ _)⟩

/-- **A run of tasks settles in order.** -/
theorem run_settles (hb : Backlog stage queue) (tasks : List Task) (future : List KeyEvent)
    (hord : ordered → KeyEvent.InTime (queue ++ (tasks.map Task.event ++ future))) :
    (stage.run tasks).1.timers.term = stage.timers.term ∧ ∃ queue',
      Backlog (stage.run tasks).1 queue' ∧
        Settlement stage.timers.term ordered stage.held
          (queue ++ (tasks.map Task.event ++ future)) (stage.run tasks).2
          (stage.run tasks).1.held (queue' ++ future) := by
  refine run_induction
    (motive := fun stage tasks final outputs => ∀ queue, Backlog stage queue →
      (ordered → KeyEvent.InTime (queue ++ (tasks.map Task.event ++ future))) →
        final.timers.term = stage.timers.term ∧ ∃ queue', Backlog final queue' ∧
          Settlement stage.timers.term ordered stage.held
            (queue ++ (tasks.map Task.event ++ future)) outputs final.held (queue' ++ future))
    ?nil ?turn stage tasks queue hb hord
  case nil =>
    intro stage queue hb _
    exact ⟨rfl, queue, hb, .stop _ _⟩
  case turn =>
    -- what a turn leaves is in the order it was in, so the rest of the run may start
    intro stage tasks outputs next left final later turn ih queue hb hord
    obtain ⟨hterm, queue', hb', hfirst⟩ := turn.settles hb future hord
    obtain ⟨hterm', queue'', hb'', hlater⟩ :=
      ih queue' hb' fun ho => (hord ho).sublist hfirst.sublist
    rw [hterm] at hlater hterm'
    exact ⟨hterm', queue'', hb'', hfirst.trans hlater⟩

/-! ## Signals -/

/-- **One signal settles in order.** -/
theorem take_settles (hb : Backlog stage queue) (signal : Signal) (rest : List Signal)
    (hord : ordered → Signal.InTime (queue.map .event ++ signal :: rest)) :
    (stage.take signal).1.timers.term = stage.timers.term ∧ ∃ queue',
      Backlog (stage.take signal).1 queue' ∧
        Settlement stage.timers.term ordered stage.held
          (queue ++ Signal.events (signal :: rest)) (stage.take signal).2
          (stage.take signal).1.held (queue' ++ Signal.events rest) := by
  have hevents : ordered → KeyEvent.InTime (queue ++ Signal.events (signal :: rest)) := fun ho => by
    simpa using (hord ho).events
  cases signal with
  | event event => exact run_settles hb [.route event] (Signal.events rest) hevents
  | clock now =>
    show (stage.expire now).1.timers.term = _ ∧ _
    simp only [take, expire_eq]
    split
    · next hexpired =>
      obtain ⟨pending, hexpired⟩ := Option.isSome_iff_exists.mp hexpired
      obtain ⟨hp, hterm⟩ := expired?_eq_some_iff.mp hexpired
      obtain ⟨press, rfl, hown, hdown, hkey, -⟩ := hb.of_pending hp
      rw [settleFirst_of_pending hp]
      -- a reading of the clock is no later than the releases after it
      have hover : Overdue stage.timers.term ordered press
          (pending.buffer ++ Signal.events rest) := by
        refine hb.overdue hp hdown hterm fun ho release hmem hup => ?_
        obtain ⟨signal, hsignal, heq⟩ := List.mem_filterMap.mp hmem
        have hclock := (List.pairwise_append.mp (hord ho)).2.1
        refine (List.pairwise_cons.mp hclock).1 signal hsignal release ?_ hup
        exact Signal.event?_eq_some_iff.mp heq
      have hfuture : ordered → KeyEvent.InTime
          ([] ++ ((pending.buffer.map Task.route).map Task.event ++ Signal.events rest)) :=
        fun ho => by
          rw [events_route]
          exact (List.pairwise_cons.mp (hevents ho)).2
      obtain ⟨hterm', queue', hb', hlater⟩ :=
        run_settles (hb.holding hp) (pending.buffer.map .route) (Signal.events rest) hfuture
      rw [events_route] at hlater
      exact ⟨hterm', queue', hb', .hold hkey hdown (.inr hover) hlater⟩
    · exact ⟨rfl, queue, hb, .stop _ _⟩

/-- **Every run of the stage settles in order** its backlog and what it takes in,
whatever it buffers and replays on the way. -/
theorem takeAll_settles (hb : Backlog stage queue) (signals : List Signal)
    (hord : ordered → Signal.InTime (queue.map .event ++ signals)) :
    (stage.takeAll signals).1.timers.term = stage.timers.term ∧ ∃ queue',
      Backlog (stage.takeAll signals).1 queue' ∧
        Settlement stage.timers.term ordered stage.held (queue ++ Signal.events signals)
          (stage.takeAll signals).2 (stage.takeAll signals).1.held queue' := by
  induction signals generalizing stage queue with
  | nil => exact ⟨rfl, queue, hb, by simpa using .stop _ _⟩
  | cons signal rest ih =>
    obtain ⟨hterm, queue', hb', hfirst⟩ := take_settles hb signal rest hord
    -- the new backlog is part of the old one and the signal, so times stay in order
    have hqueue : queue'.Sublist (queue ++ Signal.events [signal]) := by
      refine (List.append_sublist_append_right (Signal.events rest)).mp ?_
      rw [List.append_assoc, ← Signal.events_append]
      exact hfirst.sublist
    have hord' : ordered → Signal.InTime (queue'.map .event ++ rest) := fun ho => by
      refine (hord ho).sublist ?_
      rw [← List.singleton_append, ← List.append_assoc]
      refine List.Sublist.append_right ?_ rest
      refine (hqueue.map Signal.event).trans ?_
      rw [List.map_append]
      refine List.Sublist.append_left ?_ _
      cases signal with
      | clock now => exact List.nil_sublist _
      | event event => exact List.Sublist.refl _
    obtain ⟨hterm', queue'', hb'', hlater⟩ := ih hb' hord'
    rw [takeAll_cons]
    rw [hterm] at hlater hterm'
    exact ⟨hterm', queue'', hb'', hfirst.trans hlater⟩

end ModTapStage

end Keymap
