import Mathlib
import Keymap.Proofs.Rewriting
import Keymap.Proofs.Shortcuts
import Keymap.Proofs.Term
import Keymap.Proofs.Typist.Sentence

/-!
# Dual keys

A dual key types when it comes up, and much may happen while it is down. What its first
letter is typed with was settled when it went down: the modifiers that were held, and
whether a capital was due. Only caps word is asked at the release.

- `ModMask.cased`: what a letter of a dual key is typed with.
- `Typist.outputs_of_dual`: what a release types, from the record of the press.
- `Typist.stepAll_get?_of_ne`, `Engine.callAll_get?_qu`: **the record outlasts whatever
  other keys do**.
- `Engine.feed_press_qu`: what the record holds.
- `Engine.feed_release_qu`: **what the release types**, from the press and from caps word.
-/

namespace Keymap

/-- What a letter of a dual key is typed with: what was held, but of the shift keys the
left one for a capital and none for a small letter. -/
def ModMask.cased (mods : ModMask) (upper : Bool) : ModMask :=
  .ofTest fun
    | .leftShift => upper
    | .rightShift => false
    | m => mods.holds m

theorem ModMask.cased_eq (mods : ModMask) (upper : Bool) :
    mods.cased upper =
      if upper then mods \ .shifts ∪ .single .leftShift else mods \ .shifts := by
  refine ext_holds fun m => ?_
  unfold cased
  rw [holds_ofTest]
  cases upper with
  | false =>
    rw [if_neg Bool.false_ne_true, holds_sdiff]
    cases m with
    | leftShift | rightShift => exact (Bool.and_false _).symm
    | _ => exact (Bool.and_true _).symm
  | true =>
    rw [if_pos rfl, holds_union, holds_sdiff]
    cases m with
    | leftShift => exact (Bool.or_true _).symm
    | rightShift => exact ((Bool.or_false _).trans (Bool.and_false _)).symm
    | _ => exact ((Bool.or_false _).trans (Bool.and_true _)).symm

namespace Typist

variable {event : KeyEvent} {key : Key}

/-! ## The release -/

/-- **What a release types**, from the record of the press. -/
theorem outputs_of_dual (typist : Typist) {letters : DualKey}
    (hrole : event.key.role = .dual letters) (hup : event.action = .release)
    {record : PressRecord} (hrecord : typist.timers.get? event.key = some record) :
    let upper := typist.capsWord.active
    (typist.handle event).2 =
      { outputs := .tap letters.first (record.mods.cased (upper || record.wantsCapital)) ::
          if event.time - record.time < typist.timers.term then
            [.tap letters.second (record.mods.cased upper)]
          else [] } := by
  intro upper
  have hrelease : typist.timers.release event.key event.time =
      (typist.timers.forget event.key, typist.timers.resolve record event.time, some record) := by
    unfold HoldTimers.release
    rw [hrecord]
    rfl
  rw [typist.handle_release_dual hup hrole]
  unfold resolveDual
  rw [hrelease]
  simp only [ModMask.cased_eq, HoldTimers.resolve]
  by_cases htap : event.time - record.time < typist.timers.term
  · rw [if_pos htap, if_pos htap]
    rfl
  · rw [if_neg htap, if_neg htap]
    rfl

/-! ## While the key is down -/

/-- **The record of a key outlasts whatever other keys do.** -/
theorem stepAll_get?_of_ne (typist : Typist) {steps : List Step}
    (h : ∀ event ∈ Step.events steps, event.key ≠ key) :
    (typist.stepAll steps).timers.get? key = typist.timers.get? key := by
  induction steps generalizing typist with
  | nil => rfl
  | cons first rest ih =>
    rw [stepAll_cons]
    cases first with
    | handle event =>
      obtain ⟨hfirst, hrest⟩ := List.forall_mem_cons.mp h
      rw [ih _ hrest]
      exact typist.handle_get?_of_ne hfirst
    | layer layer =>
      rw [ih _ h, step_layer]
    | capsWord active =>
      rw [ih _ h, step_capsWord]

end Typist

namespace Engine

variable {settings : EngineSettings} {engine : Engine}

/-- The term of the typist is the one that was set. -/
theorem Reachable.typist_term (h : Reachable settings engine) :
    engine.typist.timers.term = settings.tappingTerm := by
  obtain ⟨calls, rfl⟩ := h
  rw [callAll_stepAll]
  exact (recorded_stepAll settings _).term

/-- While nothing is pending, an event of a dual key goes to the typist. -/
theorem feed_qu (hreach : Reachable settings engine) (hcombos : settings.combos = [])
    (hpending : engine.modTaps.pending = none) {event : KeyEvent} (hkey : event.key = .qu) :
    engine.feed event =
      let typed := engine.typist.handle (event.withMods engine.modTapMods)
      ({ engine with typist := typed.1 }, typed.2) := by
  refine feed_ordinary (ChordDetector.feed_idle (hreach.idle hcombos) event)
    (hreach.free hpending) ?_
  rw [hkey]
  rfl

/-- The press of a dual key leaves a record: when it was, what was held, and whether a
capital was due. -/
theorem feed_press_qu (hreach : Reachable settings engine) (hcombos : settings.combos = [])
    (hpending : engine.modTaps.pending = none) (mods : ModMask) (start : Nat) :
    let held := mods ∪ engine.modTapMods
    let next := (engine.feed (.press .qu mods start)).1
    next.modTaps = engine.modTaps ∧
      next.typist.timers.get? .qu =
        some ⟨start, held, engine.typist.sentence.isPrimed && held.shiftOrAltGrOnly⟩ := by
  intro held next
  have hrole : (KeyEvent.press .qu held start).key.role = .dual ⟨.q, .u⟩ := rfl
  have hnext : next = { engine with
      typist := (engine.typist.press (.press .qu held start)).1 } := by
    show (engine.feed (.press .qu mods start)).1 = _
    rw [feed_qu hreach hcombos hpending rfl]
    rfl
  obtain ⟨-, -, -, htimers⟩ := engine.typist.press_dual hrole
  have hcapital := SentenceCase.onEvent_of_letterClass hreach.coherent
    (show (KeyEvent.press .qu held start).action = .press from rfl) rfl
  rw [hnext]
  refine ⟨rfl, ?_⟩
  show (engine.typist.press (.press .qu held start)).1.timers.get? .qu = _
  rw [htimers, hcapital]
  exact HoldTimers.get?_press_self _ _ _

/-- While a dual key is down and other keys are used, its record stays as it is. -/
theorem callAll_get?_qu (hreach : Reachable settings engine) (hcombos : settings.combos = [])
    (hpending : engine.modTaps.pending = none) {calls : List Call}
    (hcalls : ∀ event ∈ Call.events calls, event.key ≠ .qu) :
    (engine.callAll calls).1.typist.timers.get? .qu = engine.typist.timers.get? .qu := by
  obtain ⟨queue, hb⟩ := hreach.backlog
  obtain ⟨rfl, -⟩ := hb.of_free hpending
  obtain ⟨_, -, hsettled⟩ := settles_after (hreach.idle hcombos) hb calls
  rw [List.nil_append] at hsettled
  have htap {key : Key} {modTap : ModTap} (h : ModTap.ofKey? key = some modTap) :
      modTap.tap ≠ .qu := by
    cases key <;> cases h <;> decide
  rw [callAll_stepAll]
  refine engine.typist.stepAll_get?_of_ne ?_
  rw [events_steps]
  exact @Settlement.handed_keys (· ≠ .qu) htap _ _ _ _ _ _ _ hsettled hcalls

/-- **What the release of a dual key types** was settled at its press, but for caps word
and for how long it was down. -/
theorem feed_release_qu (hreach : Reachable settings engine) (hcombos : settings.combos = [])
    (hpending : engine.modTaps.pending = none) (mods : ModMask) (start : Nat)
    {between : List Call} (hbetween : ∀ event ∈ Call.events between, event.key ≠ .qu)
    (hlater : (engine.callAll (.event (.press .qu mods start) :: between)).1.modTaps.pending =
      none) (mods' : ModMask) (stop : Nat) :
    let later := (engine.callAll (.event (.press .qu mods start) :: between)).1
    let held := mods ∪ engine.modTapMods
    let upper := later.typist.capsWord.active
    let capital := upper ||
      (engine.typist.sentence.isPrimed && held.shiftOrAltGrOnly || held.anyShift)
    let done := later.feed (.release .qu mods' stop)
    done.2 = { outputs := .tap .q (held.cased capital) ::
      if stop - start < settings.tappingTerm then [.tap .u (held.cased upper)] else [] } ∧
    done.1.typist.memory = ⟨if stop - start < settings.tappingTerm then .u else .q, ∅⟩ := by
  intro later held upper capital done
  obtain ⟨hfree, hrecord⟩ := feed_press_qu hreach hcombos hpending mods start
  have hpressed : Reachable settings (engine.feed (.press .qu mods start)).1 :=
    hreach.callAll [.event (.press .qu mods start)]
  have hreleased : Reachable settings later := hreach.callAll _
  -- the record of the press is still there
  have hkept : later.typist.timers.get? .qu =
      some ⟨start, held, engine.typist.sentence.isPrimed && held.shiftOrAltGrOnly⟩ :=
    (callAll_get?_qu hpressed hcombos (by rw [hfree, hpending]) hbetween).trans hrecord
  have hterm := hreleased.typist_term
  let release : KeyEvent := .release .qu (mods' ∪ later.modTapMods) stop
  have hdone : done = ({ later with typist := (later.typist.handle release).1 },
      (later.typist.handle release).2) :=
    feed_qu hreleased hcombos hlater rfl
  rw [hdone]
  constructor
  · have houtputs := @Typist.outputs_of_dual release later.typist ⟨.q, .u⟩ rfl rfl _ hkept
    rwa [hterm] at houtputs
  · have hmemory := @Typist.memory_of_dual release later.typist ⟨.q, .u⟩ rfl rfl _ hkept
    rw [hterm] at hmemory
    refine hmemory.trans (congrArg (Memory.mk · ∅) ?_)
    by_cases htap : stop - start < settings.tappingTerm
    · exact (if_neg (Nat.not_le_of_lt htap)).trans (if_pos htap).symm
    · exact (if_pos (Nat.le_of_not_lt htap)).trans (if_neg htap).symm

/-- After a full stop, with AltGr held by a mod-tap, `qu` is typed with one capital. Other
keys are used while it is down, a mod-tap among them, and caps word is on for a while. -/
theorem feed_release_qu_after_dot :
    let engine := ((new {}).callAll
      [.event (.press .dot ∅ 0), .event (.release .dot ∅ 20), .event (.press .homeI ∅ 30),
        .tick 300]).1
    let between : List Call :=
      [.event (.press .a ∅ 320), .event (.press .homeN ∅ 330), .layer .sym,
        .event (.release .homeN ∅ 350), .capsWord true, .event (.release .a ∅ 360), .tick 370,
        .capsWord false, .event (.press .space ∅ 380), .event (.release .space ∅ 390)]
    let later := (engine.callAll (.event (.press .qu ∅ 310) :: between)).1
    engine.modTaps.pending = none ∧ later.modTaps.pending = none ∧
      (∀ event ∈ Call.events between, event.key ≠ .qu) ∧
      (later.feed (.release .qu ∅ 450)).2.outputs =
        [.tap .q { leftShift := true, rightAlt := true }, .tap .u { rightAlt := true }] := by
  intro engine between later
  have hpending : engine.modTaps.pending = none := by cbv
  have hlater : later.modTaps.pending = none := by
    simp only [later, between, engine]
    cbv
  have hbetween : ∀ event ∈ Call.events between, event.key ≠ .qu := by decide
  have hmods : engine.modTapMods = { rightAlt := true } := by cbv
  have hprimed : engine.typist.sentence.isPrimed = true := by cbv
  have hcapsWord : later.typist.capsWord.active = false := by
    simp only [later, between, engine]
    cbv
  have htyped := (@feed_release_qu {} engine ⟨_, rfl⟩ rfl hpending ∅ 310 between hbetween hlater
    ∅ 450).1
  rw [hmods, hprimed, hcapsWord] at htyped
  exact ⟨hpending, hlater, hbetween, congrArg Response.outputs htyped⟩

end Engine

end Keymap
