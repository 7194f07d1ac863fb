import Keymap.Proofs.Chord.Account
import Keymap.Proofs.Host
import Keymap.Proofs.Reachable

/-!
# Nothing stays stuck

When every key that went down has come up again, no stage of the pipeline keeps
anything: the detector owes nothing, the mod-tap stage has settled everything
and holds nothing, the timers are empty, and the host has every key up.

- `ModTapStage.eq_nil_of_settled`: a sound stream that ends with all keys up
  leaves nothing pending and nothing held.
- `Engine.AtRest`: nothing is held back, pending or held.
- `Engine.count_forwarded`: the host sees every key go up as often as down.
- `Engine.callAll_atRest`: **nothing stays stuck**, whatever the settings, the
  chords and the ticks in between.
-/

namespace Keymap

open Stroke

/-- A sound stream that ends with all keys up leaves nothing in the mod-tap stage. -/
theorem ModTapStage.eq_nil_of_settled {stage : ModTapStage} {queue events : List KeyEvent}
    {term : Nat} {ordered : Prop} {outputs : List StageOutput} (hb : Backlog stage queue)
    (hsettled : Settlement term ordered [] events outputs stage.held queue)
    (hevents : ∀ key, Sound key 0 (events.map KeyEvent.stroke) ∧
      level key (events.map KeyEvent.stroke) = 0) :
    queue = [] ∧ stage.held = [] := by
  -- what is held of a mod-tap and what waits of it add up to nothing
  have haccount {key : Key} {modTap : ModTap} (hkey : ModTap.ofKey? key = some modTap) :
      ModTap.heldCount key stage.held + level key (queue.map KeyEvent.stroke) = 0 := by
    obtain ⟨hsound, hlevel⟩ := hevents key
    have := (hsettled.modTap_account hkey (fun _ hmem => by cases hmem) hsound).2
    rw [hlevel] at this
    exact this.symm
  have hqueue : queue = [] := by
    cases hp : stage.pending with
    | none => exact (hb.of_free hp).1
    | some pending =>
      obtain ⟨press, rfl, -, hdown, hkey, -⟩ := hb.of_pending hp
      have hsum := haccount hkey
      have := ModTap.heldCount_nonneg press.key stage.held
      have := level_nonneg (hb.up_not_mem hdown)
      rw [List.map_cons, KeyEvent.stroke_of_press hdown, level_cons, delta_down_self] at hsum
      omega
  refine ⟨hqueue, ModTap.eq_nil_of_heldCount fun modTap hmem => ?_⟩
  have := haccount (hb.genuine modTap hmem)
  rwa [hqueue, List.map_nil, level_nil, Int.add_zero] at this

namespace Engine

/-- Nothing is held back, pending or held anywhere in the pipeline. -/
structure AtRest (engine : Engine) : Prop where
  heldBack : engine.chords.held = none
  swallowed : engine.chords.swallowed = []
  pending : engine.modTaps.pending = none
  held : engine.modTaps.held = []
  mods : engine.modTapMods = ∅
  modTapRecords : engine.modTaps.timers.records = []
  dualRecords : engine.typist.timers.records = []

variable (settings : EngineSettings) {calls : List Call}

/-- A run that leaves every key up leaves every key up behind the detector. -/
theorem signals_complete (h : Complete (Call.strokes calls)) :
    (((new settings).chords.signalAll calls).1.held = none ∧
      ((new settings).chords.signalAll calls).1.swallowed = []) ∧
      ∀ key,
        Sound key 0
          ((Signal.events ((new settings).chords.signalAll calls).2).map KeyEvent.stroke) ∧
        level key
          ((Signal.events ((new settings).chords.signalAll calls).2).map KeyEvent.stroke) = 0 :=
  ChordDetector.signalAll_complete ⟨rfl, rfl⟩ h

/-- A run that leaves every key up settles everything. -/
theorem new_settles_complete (h : Complete (Call.strokes calls)) {ordered : Prop}
    (hord : ordered → Signal.InTime ((new settings).chords.signalAll calls).2) :
    ModTapStage.Backlog ((new settings).callAll calls).1.modTaps [] ∧
      ((new settings).callAll calls).1.modTaps.held = [] ∧
      Settlement settings.tappingTerm ordered []
        (Signal.events ((new settings).chords.signalAll calls).2)
        ((new settings).settled calls) [] [] := by
  obtain ⟨queue, hb, hsettled⟩ := new_settles settings calls hord
  have hevents := (signals_complete settings h).2
  obtain ⟨rfl, hheld⟩ := ModTapStage.eq_nil_of_settled hb hsettled hevents
  exact ⟨hb, hheld, hheld ▸ hsettled⟩

/-- What leaves the mod-tap stage brings an ordinary key up as often as down. -/
theorem settled_account (h : Complete (Call.strokes calls)) {key : Key}
    (hkey : ModTap.ofKey? key = none) :
    Sound key 0 (((new settings).settled calls).flatMap StageOutput.strokes) ∧
      level key (((new settings).settled calls).flatMap StageOutput.strokes) = 0 := by
  obtain ⟨-, -, hsettled⟩ := new_settles_complete settings h False.elim
  obtain ⟨hsound, hlevel⟩ := (signals_complete settings h).2 key
  obtain ⟨hsound', hlevel'⟩ :=
    hsettled.ordinary_account hkey (fun _ hmem => by cases hmem) hsound
  refine ⟨hsound', ?_⟩
  simp only [ModTap.modLevel_nil, List.map_nil, level_nil] at hlevel'
  omega

/-- The transitions of keys that a run sends to the host. -/
def forwarded (engine : Engine) (calls : List Call) : List Stroke :=
  (engine.callAll calls).2.outputs.filterMap Output.stroke?

/-- The host sees every key go up as often as down. -/
theorem count_forwarded (h : Complete (Call.strokes calls)) (key : Key) :
    ((new settings).forwarded calls).count (.down key) =
      ((new settings).forwarded calls).count (.up key) := by
  rw [forwarded, callAll_forwards]
  cases hplain : key.isPlain with
  | true =>
    -- a plain key is not a mod-tap
    have hkey : ModTap.ofKey? key = none := by
      cases hmodTap : ModTap.ofKey? key with
      | none => rfl
      | some modTap => simp [ModTap.isPlain_of_ofKey? hmodTap] at hplain
    have hlevel := (settled_account settings h hkey).2
    rw [level_eq_count] at hlevel
    have hdown : (down key).isPlain = true := hplain
    have hup : (up key).isPlain = true := hplain
    rw [List.count_filter hdown, List.count_filter hup]
    omega
  | false =>
    -- what is not plain is not sent at all, neither down nor up
    have hnone (stroke : Stroke) (hstroke : stroke.key = key) :
        stroke ∉ (((new settings).settled calls).flatMap StageOutput.strokes).filter
          Stroke.isPlain := by
      intro hmem
      have := (List.mem_filter.mp hmem).2
      simp [Stroke.isPlain, hstroke, hplain] at this
    rw [List.count_eq_zero.mpr (hnone _ rfl), List.count_eq_zero.mpr (hnone _ rfl)]

/-- The host holds no modifier. -/
theorem emitAll_held (h : Complete (Call.strokes calls)) :
    (Editor.emitAll {} ((new settings).callAll calls).2.outputs).held = ∅ := by
  refine ModMask.ext_holds fun m => ?_
  have hkey : ModTap.ofKey? m.key = none := by cases m <;> rfl
  obtain ⟨hsound, hlevel⟩ := settled_account settings h hkey
  rw [Editor.emitAll_held, callAll_forwards,
    isDown_filter fun stroke hstroke => by rw [Stroke.isPlain, hstroke, m.isPlain_key],
    ModMask.holds_empty]
  exact isDown_eq_false hsound (by cases m <;> simp) (by omega)

/-- No dual key waits for its release. -/
theorem dual_records (h : Complete (Call.strokes calls)) :
    ((new settings).callAll calls).1.typist.timers.records = [] := by
  refine HoldTimers.records_eq_nil fun key => ?_
  rw [callAll_isPressed]
  cases hdual : key.isDual with
  | false => rfl
  | true =>
    have hkey : ModTap.ofKey? key = none := by
      cases hmodTap : ModTap.ofKey? key with
      | none => rfl
      | some modTap => simp [ModTap.isDual_of_ofKey? hmodTap] at hdual
    obtain ⟨hsound, hlevel⟩ := settled_account settings h hkey
    exact isDown_eq_false hsound (by intro hpressed; cases hpressed) (by omega)

/-- **Nothing stays stuck**: once every key is up again, the engine is at rest,
the host has seen every key go up as often as down, and it holds no modifier. -/
theorem callAll_atRest (h : Complete (Call.strokes calls)) :
    ((new settings).callAll calls).1.AtRest ∧
      (∀ key, ((new settings).forwarded calls).count (.down key) =
        ((new settings).forwarded calls).count (.up key)) ∧
      (Editor.emitAll {} ((new settings).callAll calls).2.outputs).held = ∅ := by
  obtain ⟨hb, hheld, -⟩ := new_settles_complete settings h False.elim
  obtain ⟨hheldBack, hswallowed⟩ := (signals_complete settings h).1
  -- a pending mod-tap would have its press in the backlog
  have hpending : ((new settings).callAll calls).1.modTaps.pending = none := by
    cases hp : ((new settings).callAll calls).1.modTaps.pending with
    | none => rfl
    | some pending =>
      obtain ⟨press, hqueue, -⟩ := hb.of_pending hp
      cases hqueue
  refine ⟨?_, count_forwarded settings h, emitAll_held settings h⟩
  constructor
  case heldBack => rwa [callAll_chords]
  case swallowed => rwa [callAll_chords]
  case pending => exact hpending
  case held => exact hheld
  case mods => rw [modTapMods, ModTapStage.mods, hheld]; rfl
  case modTapRecords => exact (hb.of_free hpending).2
  case dualRecords => exact dual_records settings h

/-- A chord inside a held mod-tap leaves nothing stuck. -/
theorem callAll_atRest_chord :
    let settings : EngineSettings := { combos := [⟨.j, .k, .escape⟩] }
    let calls : List Call :=
      [.event (.press .homeN ∅ 0), .event (.press .j ∅ 10), .event (.press .k ∅ 20), .tick 250,
        .event (.release .homeN ∅ 260), .event (.release .k ∅ 270), .event (.release .j ∅ 280)]
    Complete (Call.strokes calls) ∧ ((new settings).callAll calls).1.AtRest ∧
      (∀ key, ((new settings).forwarded calls).count (.down key) =
        ((new settings).forwarded calls).count (.up key)) ∧
      (Editor.emitAll {} ((new settings).callAll calls).2.outputs).held = ∅ :=
  ⟨by decide, callAll_atRest _ (by decide)⟩

end Engine

end Keymap
