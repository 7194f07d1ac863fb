import Mathlib
import Keymap.Proofs.Host
import Keymap.Proofs.ModTap.Procedures
import Keymap.Proofs.Reachable

/-!
# The record of the pending mod-tap

A mod-tap that is pending has a record in the timers, and no other mod-tap has one. Both are
written when the mod-tap becomes pending and cleared when it settles, in different procedures and
in the middle of replays, so the calls of a run are followed one by one.

- `Start`, `lastStart`: how a mod-tap became pending, and the last time that one did.
- `InStep`: the timers have the record of the press that made the pending mod-tap pending, and no
  other.
- `Executes.inStep`: **every call keeps them in step**, and finds the record that it looks for.
- `Engine.callAll_inStep`: so it is after every run of a fresh engine.
-/

namespace Keymap

namespace ModTapStage

/-! ## How a mod-tap becomes pending -/

/-- A press that makes its mod-tap pending, and what mod-taps hold at that moment. -/
structure Start where
  press : KeyEvent
  mods : ModMask

/-- The record of the press. -/
def Start.record (start : Start) : PressRecord :=
  ⟨start.press.time, start.press.mods ∪ start.mods, false⟩

/-- The press that a call makes pending, if it does. -/
def Entry.start? : Entry → Option Start
  | ⟨.accept event, stage⟩ =>
    if stage.pending.isNone && event.isPress && (ModTap.ofKey? event.key).isSome then
      some ⟨event, stage.mods⟩
    else none
  | _ => none

/-- The last press that some calls made pending. -/
def lastStart (entries : List Entry) : Option Start :=
  (entries.filterMap Entry.start?).getLast?

theorem lastStart_cons_of_none {entry : Entry} (h : entry.start? = none) (rest : List Entry) :
    lastStart (entry :: rest) = lastStart rest := by
  rw [lastStart, List.filterMap_cons_none h]
  rfl

theorem lastStart_append (front back : List Entry) :
    lastStart (front ++ back) = (lastStart back).or (lastStart front) := by
  rw [lastStart, List.filterMap_append, List.getLast?_append]
  rfl

/-- While a mod-tap is pending no other becomes pending. -/
theorem start?_of_pending {stage : ModTapStage} {pending : PendingModTap}
    (hp : stage.pending = some pending) (event : KeyEvent) :
    Entry.start? ⟨.accept event, stage⟩ = none := by
  simp [Entry.start?, hp]

/-! ## In step -/

/-- The timers have the record of the press that made the pending mod-tap pending, and no other.
That press, and what waits behind it, are among the events that were given. -/
inductive InStep (given : List KeyEvent) (stage : ModTapStage) (start? : Option Start) : Prop where
  | free (hp : stage.pending = none) (ht : stage.timers.records = [])
  | behind {pending : PendingModTap} {start : Start} (hp : stage.pending = some pending)
      (hstart : start? = some start) (hkey : start.press.key = pending.modTap.key)
      (ht : stage.timers.records = [(pending.modTap.key, start.record)])
      (hgiven : ∀ event ∈ start.press :: pending.buffer, event ∈ given)

/-- The call finds the record that it looks for: a tap that of the key that comes up, a check of
the clock that of the pending mod-tap. -/
def Entry.FindsRecord : Entry → Prop
  | ⟨.tap release, stage⟩ => (stage.timers.get? release.key).isSome
  | ⟨.expire _, stage⟩ =>
    ∀ pending, stage.pending = some pending → (stage.timers.get? pending.modTap.key).isSome
  | _ => True

namespace InStep

variable {given : List KeyEvent} {stage : ModTapStage} {start? : Option Start}

/-- The pending mod-tap has the record of its press. -/
theorem of_pending (h : InStep given stage start?) {pending : PendingModTap}
    (hp : stage.pending = some pending) :
    ∃ start, start? = some start ∧ start.press.key = pending.modTap.key ∧
      stage.timers.records = [(pending.modTap.key, start.record)] ∧
      ∀ event ∈ start.press :: pending.buffer, event ∈ given := by
  cases h with
  | free hp' _ => exact nomatch hp.symm.trans hp'
  | behind hp' hstart hkey ht hgiven =>
    obtain rfl := Option.some.inj (hp.symm.trans hp')
    exact ⟨_, hstart, hkey, ht, hgiven⟩

/-- While none is pending there is no record. -/
theorem of_free (h : InStep given stage start?) (hp : stage.pending = none) :
    stage.timers.records = [] := by
  cases h with
  | free _ ht => exact ht
  | behind hp' => exact nomatch hp.symm.trans hp'

theorem get?_pending (h : InStep given stage start?) {pending : PendingModTap}
    (hp : stage.pending = some pending) :
    ∃ start, start? = some start ∧ start.press ∈ given ∧ start.press.key = pending.modTap.key ∧
      stage.timers.get? pending.modTap.key = some start.record := by
  obtain ⟨start, hstart, hkey, ht, hgiven⟩ := h.of_pending hp
  refine ⟨start, hstart, hgiven _ (List.mem_cons_self), hkey, ?_⟩
  rw [HoldTimers.get?, ht, List.lookup_cons_self]

/-- A key has a record exactly if it is that of the pending mod-tap. -/
theorem isSome_get?_iff (h : InStep given stage start?) (key : Key) :
    (stage.timers.get? key).isSome ↔
      ∃ pending, stage.pending = some pending ∧ pending.modTap.key = key := by
  constructor
  · intro hsome
    cases hp : stage.pending with
    | none =>
      rw [HoldTimers.get?, h.of_free hp] at hsome
      exact absurd hsome Bool.false_ne_true
    | some pending =>
      obtain ⟨start, -, -, ht, -⟩ := h.of_pending hp
      refine ⟨pending, rfl, Classical.byContradiction fun hne => ?_⟩
      have hother : (key == pending.modTap.key) = false := beq_false_of_ne (Ne.symm hne)
      rw [HoldTimers.get?, ht, List.lookup_cons, hother] at hsome
      exact absurd hsome Bool.false_ne_true
  · rintro ⟨pending, hp, rfl⟩
    obtain ⟨start, -, -, -, hget⟩ := h.get?_pending hp
    rw [hget]
    rfl

/-- Once the record of the pending mod-tap is forgotten there is none. -/
theorem forget (h : InStep given stage start?) {pending : PendingModTap}
    (hp : stage.pending = some pending) :
    (stage.timers.forget pending.modTap.key).records = [] := by
  obtain ⟨start, -, -, ht, -⟩ := h.of_pending hp
  simp [HoldTimers.forget, ht]

/-- What waits behind the pending mod-tap was given, and may be routed again. -/
theorem given_of_replay (h : InStep given stage start?) {pending : PendingModTap}
    (hp : stage.pending = some pending) :
    ∀ event ∈ (Procedure.work (pending.buffer.map .route)).events, event ∈ given := by
  obtain ⟨_, -, -, -, hgiven⟩ := h.of_pending hp
  rw [Procedure.events, events_route]
  exact fun event hmem => hgiven event (List.mem_cons_of_mem _ hmem)

/-- An event that waits behind the pending mod-tap changes no record. -/
theorem enqueue (h : InStep given stage start?) {pending : PendingModTap}
    (hp : stage.pending = some pending) {event : KeyEvent} (hevent : event ∈ given) :
    InStep given (stage.enqueue pending event) start? := by
  obtain ⟨start, hstart, hkey, ht, hgiven⟩ := h.of_pending hp
  refine @InStep.behind _ _ _ { pending with buffer := pending.buffer ++ [event] } start rfl hstart
    hkey ht fun other hmem => ?_
  rw [← List.cons_append] at hmem
  rcases List.mem_append.mp hmem with hold | hnew
  · exact hgiven other hold
  · rw [List.mem_singleton.mp hnew]
    exact hevent

/-- What is let in while no mod-tap is pending makes one pending with its record, or changes no
record. -/
theorem acceptFree (h : InStep given stage start?) (hp : stage.pending = none) {event : KeyEvent}
    (hevent : event ∈ given) :
    InStep given (stage.acceptFree event).stage
      ((lastStart [⟨.accept event, stage⟩]).or start?) := by
  have ht := h.of_free hp
  unfold ModTapStage.acceptFree
  cases hkey : ModTap.ofKey? event.key with
  | none => exact .free hp ht
  | some modTap =>
    cases hdown : event.isPress with
    | true =>
      have hown := ModTap.key_of_ofKey? hkey
      have hstart : lastStart [⟨.accept event, stage⟩] = some ⟨event, stage.mods⟩ := by
        simp [lastStart, Entry.start?, hp, hdown, hkey]
      rw [hstart]
      refine @InStep.behind _ _ _ { modTap := modTap } ⟨event, stage.mods⟩ rfl rfl hown.symm ?_
        fun other hmem => ?_
      · simp [start, HoldTimers.press, HoldTimers.forget, ht, Start.record]
      · rw [List.mem_singleton.mp hmem]
        exact hevent
    | false =>
      -- a mod-tap that comes up is lifted or lost
      refine .free ?_ ?_
      · simp only [Bool.false_eq_true, if_false, lift]
        split <;> exact hp
      · simp only [Bool.false_eq_true, if_false, lift]
        split <;> exact ht

end InStep

/-! ## One call -/

/-- A tap is called when the pending mod-tap comes up. -/
def Procedure.CalledFor (stage : ModTapStage) : Procedure → Prop
  | .tap release => ∃ pending, stage.pending = some pending ∧ release.key = pending.modTap.key
  | _ => True

/-- **Every call keeps the timers and the pending mod-tap in step**, and every call that it makes
finds the record that it looks for. -/
theorem Executes.inStep {given : List KeyEvent} {procedure : Procedure}
    {stage final : ModTapStage} {outputs : List StageOutput} {entries : List Entry}
    (h : Executes procedure stage final outputs entries)
    {start? : Option Start} (hstage : InStep given stage start?)
    (hcalled : procedure.CalledFor stage) (hgiven : ∀ event ∈ procedure.events, event ∈ given) :
    InStep given final ((lastStart entries).or start?) ∧
      ∀ entry ∈ entries, entry.FindsRecord := by
  -- a mod-tap becomes pending in `free` alone; a settle clears the slot and the record together,
  -- before the buffer is routed again
  induction h generalizing start? with
  | route hcheck haccept ihcheck ihaccept =>
    obtain ⟨hmiddle, hchecks⟩ := ihcheck hstage trivial (List.forall_mem_nil _)
    obtain ⟨hfinal, haccepts⟩ := ihaccept hmiddle trivial hgiven
    rw [lastStart_cons_of_none rfl, lastStart_append, Option.or_assoc]
    refine ⟨hfinal, List.forall_mem_cons.mpr ⟨trivial, fun entry hmem => ?_⟩⟩
    exact (List.mem_append.mp hmem).elim (hchecks entry) (haccepts entry)
  | expired hp hterm hhold ih =>
    obtain ⟨hfinal, hentries⟩ := ih hstage trivial (List.forall_mem_nil _)
    rw [lastStart_cons_of_none rfl]
    refine ⟨hfinal, List.forall_mem_cons.mpr ⟨fun pending hp => ?_, hentries⟩⟩
    exact (hstage.isSome_get?_iff _).mpr ⟨pending, hp, rfl⟩
  | unexpired hterm =>
    refine ⟨hstage, List.forall_mem_singleton.mpr fun pending hp => ?_⟩
    exact (hstage.isSome_get?_iff _).mpr ⟨pending, hp, rfl⟩
  | own hp hup htap ih =>
    obtain ⟨hfinal, hentries⟩ :=
      ih hstage ⟨_, hp, congrArg Stroke.key hup⟩ (List.forall_mem_nil _)
    rw [lastStart_cons_of_none (start?_of_pending hp _)]
    exact ⟨hfinal, List.forall_mem_cons.mpr ⟨trivial, hentries⟩⟩
  | nested hp hother hnested hhold ih =>
    obtain ⟨hfinal, hentries⟩ :=
      ih (hstage.enqueue hp (hgiven _ List.mem_cons_self)) trivial (List.forall_mem_nil _)
    rw [lastStart_cons_of_none (start?_of_pending hp _)]
    exact ⟨hfinal, List.forall_mem_cons.mpr ⟨trivial, hentries⟩⟩
  | wait hp hother hnested =>
    rw [lastStart_cons_of_none (start?_of_pending hp _)]
    exact ⟨hstage.enqueue hp (hgiven _ List.mem_cons_self), List.forall_mem_singleton.mpr trivial⟩
  | free hp =>
    exact ⟨hstage.acceptFree hp (hgiven _ List.mem_cons_self),
      List.forall_mem_singleton.mpr trivial⟩
  | @tap release stage _ pending _ _ hp hwork ih =>
    obtain ⟨called, hcalled, hkey⟩ := hcalled
    obtain rfl := Option.some.inj (hp.symm.trans hcalled)
    have hafter : InStep given (stage.settleTap pending release).stage start? := by
      refine .free rfl ?_
      show (stage.timers.forget release.key).records = []
      rw [hkey]
      exact hstage.forget hp
    obtain ⟨hfinal, hentries⟩ := ih hafter trivial (hstage.given_of_replay hp)
    rw [lastStart_cons_of_none rfl]
    refine ⟨hfinal, List.forall_mem_cons.mpr ⟨?_, hentries⟩⟩
    exact (hstage.isSome_get?_iff _).mpr ⟨pending, hp, hkey.symm⟩
  | @hold stage _ pending _ _ hp hwork ih =>
    have hafter : InStep given (stage.holding pending) start? := .free rfl (hstage.forget hp)
    obtain ⟨hfinal, hentries⟩ := ih hafter trivial (hstage.given_of_replay hp)
    rw [lastStart_cons_of_none rfl]
    exact ⟨hfinal, List.forall_mem_cons.mpr ⟨trivial, hentries⟩⟩
  | done => exact ⟨hstage, List.forall_mem_nil _⟩
  | @next task rest stage _ _ _ _ _ _ hfirst hrest ihfirst ihrest =>
    have htask : task.procedure.CalledFor stage := by cases task <;> trivial
    obtain ⟨hone, hothers⟩ := List.forall_mem_cons.mp hgiven
    rw [← List.forall_mem_singleton (p := (· ∈ given)), ← task.events_procedure] at hone
    obtain ⟨hmiddle, hentries⟩ := ihfirst hstage htask hone
    obtain ⟨hfinal, hentries'⟩ := ihrest hmiddle trivial hothers
    rw [lastStart_append, Option.or_assoc]
    exact ⟨hfinal, fun entry hmem =>
      (List.mem_append.mp hmem).elim (hentries entry) (hentries' entry)⟩

/-! ## A run -/

/-- What a signal calls. -/
def signalProcedure : Signal → Procedure
  | .event event => .route event
  | .clock now => .expire now

/-- What signals lead to, and the calls that they make, in order. -/
inductive ExecutesAll :
    List Signal → ModTapStage → ModTapStage → List StageOutput → List Entry → Prop where
  | nil {stage : ModTapStage} : ExecutesAll [] stage stage [] []
  | cons {signal : Signal} {rest : List Signal} {stage middle final : ModTapStage}
      {one two : List StageOutput} {entries entries' : List Entry}
      (hfirst : Executes (signalProcedure signal) stage middle one entries)
      (hrest : ExecutesAll rest middle final two entries') :
      ExecutesAll (signal :: rest) stage final (one ++ two) (entries ++ entries')

/-- What a run of the stage takes in, it takes in by calls. -/
theorem executesAll_takeAll (stage : ModTapStage) (signals : List Signal) :
    ∃ entries, ExecutesAll signals stage (stage.takeAll signals).1 (stage.takeAll signals).2
      entries := by
  induction signals generalizing stage with
  | nil => exact ⟨[], .nil⟩
  | cons signal rest ih =>
    have hfirst : ∃ entries, Executes (signalProcedure signal) stage (stage.take signal).1
        (stage.take signal).2 entries := by
      cases signal with
      | event event => exact stage.executes_route_event event
      | clock now => exact stage.executes_expire now
    obtain ⟨_, hfirst⟩ := hfirst
    obtain ⟨_, hrest⟩ := ih (stage.take signal).1
    exact ⟨_, .cons hfirst hrest⟩

/-- **A run keeps the timers and the pending mod-tap in step.** -/
theorem ExecutesAll.inStep {given : List KeyEvent} {signals : List Signal}
    {stage final : ModTapStage} {outputs : List StageOutput} {entries : List Entry}
    (h : ExecutesAll signals stage final outputs entries)
    {start? : Option Start} (hstage : InStep given stage start?)
    (hgiven : ∀ event ∈ Signal.events signals, event ∈ given) :
    InStep given final ((lastStart entries).or start?) ∧
      ∀ entry ∈ entries, entry.FindsRecord := by
  induction h generalizing start? with
  | nil => exact ⟨hstage, List.forall_mem_nil _⟩
  | @cons signal rest stage _ _ _ _ _ _ hfirst hrest ih =>
    have hcalled : (signalProcedure signal).CalledFor stage := by cases signal <;> trivial
    have hevents : (signalProcedure signal).events ++ Signal.events rest =
        Signal.events (signal :: rest) := by cases signal <;> rfl
    rw [← hevents] at hgiven
    obtain ⟨hone, hothers⟩ := List.forall_mem_append.mp hgiven
    obtain ⟨hmiddle, hentries⟩ := hfirst.inStep hstage hcalled hone
    obtain ⟨hfinal, hentries'⟩ := ih hmiddle hothers
    rw [lastStart_append, Option.or_assoc]
    exact ⟨hfinal, fun entry hmem =>
      (List.mem_append.mp hmem).elim (hentries entry) (hentries' entry)⟩

end ModTapStage

namespace Engine

open ModTapStage

/-- The record of a key that is down. Mod-taps and dual keys are timed by the stage that they
belong to. -/
def record? (engine : Engine) (key : Key) : Option PressRecord :=
  (engine.modTaps.timers.get? key).or (engine.typist.timers.get? key)

/-- The typist times no mod-tap. -/
theorem typist_get?_of_modTap (settings : EngineSettings) (calls : List Call) {key : Key}
    (h : (ModTap.ofKey? key).isSome) :
    ((new settings).callAll calls).1.typist.timers.get? key = none := by
  obtain ⟨modTap, hkey⟩ := Option.isSome_iff_exists.mp h
  have hpressed := (new settings).callAll_isPressed calls key
  rw [ModTap.isDual_of_ofKey? hkey] at hpressed
  exact Option.not_isSome_iff_eq_none.mp (Bool.eq_false_iff.mp hpressed)

/-- **The timers and the pending mod-tap stay in step.** After every run of a fresh engine, a
mod-tap has a record exactly if it is pending. The record has the time of the press that made it
pending, which is the last that made any pending, and the modifiers of that press joined with those
that mod-taps held at that moment. Every call on the way found the record that it looked for. -/
theorem callAll_inStep (settings : EngineSettings) (calls : List Call) :
    let engine := ((new settings).callAll calls).1
    let signals := ((new settings).chords.signalAll calls).2
    ∃ entries,
      ExecutesAll signals (new settings).modTaps engine.modTaps ((new settings).settled calls)
        entries ∧
      (∀ key, (ModTap.ofKey? key).isSome →
        ((engine.record? key).isSome ↔
          ∃ pending, engine.modTaps.pending = some pending ∧ pending.modTap.key = key)) ∧
      (∀ pending, engine.modTaps.pending = some pending →
        ∃ start, lastStart entries = some start ∧ start.press ∈ Signal.events signals ∧
          start.press.key = pending.modTap.key ∧
          engine.record? pending.modTap.key = some start.record) ∧
      ∀ entry ∈ entries, entry.FindsRecord := by
  intro engine signals
  obtain ⟨entries, hexecutes⟩ := executesAll_takeAll (new settings).modTaps signals
  have hfresh : InStep (Signal.events signals) (new settings).modTaps none := .free rfl rfl
  obtain ⟨hinStep, hfinds⟩ := hexecutes.inStep hfresh fun _ hmem => hmem
  have hstage : engine.modTaps = ((new settings).modTaps.takeAll signals).1 :=
    callAll_modTaps _ calls
  rw [← hstage] at hexecutes hinStep
  rw [Option.or_none] at hinStep
  refine ⟨entries, hexecutes, fun key hkey => ?_, fun pending hp => ?_, hfinds⟩
  · rw [record?, typist_get?_of_modTap settings calls hkey, Option.or_none]
    exact hinStep.isSome_get?_iff key
  · obtain ⟨start, hstart, hgiven, hkey, hget⟩ := hinStep.get?_pending hp
    refine ⟨start, hstart, hgiven, hkey, ?_⟩
    rw [record?, hget]
    rfl

/-- Two mod-taps go down one after the other, and a tick holds the first: the other becomes
pending in the middle of the tick, long after it went down, with the modifier of the first. -/
theorem callAll_inStep_homeS :
    let calls : List Call :=
      [.event (.press .homeN ∅ 0), .event (.press .homeS (.single .leftShift) 150), .tick 210]
    let engine := ((new {}).callAll calls).1
    let pending : PendingModTap := { modTap := ⟨.homeS, .s, .leftGui⟩ }
    (ModTap.ofKey? .homeS).isSome ∧ engine.modTaps.pending = some pending ∧
      (engine.record? .homeN).isSome = false ∧
      ((engine.record? .homeS).isSome ↔
        ∃ pending, engine.modTaps.pending = some pending ∧ pending.modTap.key = .homeS) ∧
      engine.record? .homeS =
        some ⟨150, .single .leftShift ∪ .single .leftAlt, false⟩ := by
  intro calls engine pending
  have hpending : engine.modTaps.pending = some pending := by cbv
  obtain ⟨entries, -, hrecord, -, -⟩ := callAll_inStep {} calls
  exact ⟨by decide, hpending, by cbv, hrecord .homeS (by decide), by cbv⟩

end Engine

end Keymap
