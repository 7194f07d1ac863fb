import Mathlib
import Keymap.Proofs.ModTap.LateRelease
import Keymap.Proofs.ModTap.Levels
import Keymap.Proofs.Reachable

/-!
# A mod-tap that is down for its whole term

Without chords, a mod-tap that comes up a term or more after it went down is
held, and its tap key is not typed, whatever else is pending, held or buffered
and whether or not the clock was ticked in between. There is one exception: the
release finds it pending because the same release had the clock hold another.

- `ModTapStage.pressCount_eq_zero`: a key that is up has no press in the backlog.
- `Engine.holds_iff_not_tapsLate`: **a mod-tap that is down for its whole term is
  held, unless it `TapsLate`.**
-/

namespace Keymap

open Stroke

/-- A key that is up, all told, has no press in the backlog. -/
theorem ModTapStage.pressCount_eq_zero {stage : ModTapStage} {queue : List KeyEvent} {key : Key}
    {n : Int} (hb : Backlog stage queue) (hs : Sound key n (queue.map KeyEvent.stroke))
    (hlevel : n + level key (queue.map KeyEvent.stroke) = 0) : pressCount key queue = 0 := by
  refine List.count_eq_zero.mpr fun hmem => ?_
  obtain ⟨front, back, hsplit⟩ := List.append_of_mem hmem
  have hunnested := hb.unnested
  rw [hsplit] at hs hlevel hunnested
  -- nothing comes up after the press, so it is still down
  have hback : .up key ∉ back :=
    (unnested_cons.mp (unnested_append.mp hunnested).2.1).1 key rfl
  have hfront := (sound_append.mp hs).1.last
  have := level_nonneg hback
  rw [level_append, level_cons, delta_down_self] at hlevel
  omega

namespace Call

/-- The events are in order of time if the calls are. -/
theorem events_sorted {calls : List Call} (sorted : (times calls).Pairwise (· ≤ ·)) :
    (events calls).Pairwise fun first second => first.time ≤ second.time := by
  have hsub : ((events calls).map KeyEvent.time).Sublist (times calls) := by
    induction calls with
    | nil => exact List.Sublist.refl _
    | cons call rest ih =>
      cases call with
      | event event => exact (ih (List.pairwise_cons.mp sorted).2).cons_cons event.time
      | tick now => exact (ih (List.pairwise_cons.mp sorted).2).cons now
      | layer layer => exact ih sorted
      | capsWord active => exact ih sorted
  exact List.pairwise_map.mp (sorted.sublist hsub)

end Call

namespace Engine

/-- What a call without chords settles. -/
theorem settled_event {engine : Engine} (hidle : engine.chords.Idle) (event : KeyEvent) :
    engine.settled [.event event] = (engine.modTaps.route event).2 := by
  simp [settled, ChordDetector.signalAll_idle hidle, Call.signal?, ModTapStage.takeAll_cons,
    ModTapStage.take]

variable {settings : EngineSettings} {before : List Call} {key : Key} {modTap : ModTap}

/-- Before a key goes down its presses have been settled. -/
theorem backlog_before (hcombos : settings.combos = []) (hkey : ModTap.ofKey? key = some modTap)
    {later : List Stroke}
    (alternates : Alternates (Call.strokes before ++ .down key :: later)) :
    ∃ queue, ModTapStage.Backlog ((new settings).callAll before).1.modTaps queue ∧
      pressCount key queue = 0 ∧ queue.Sublist (Call.events before) := by
  obtain ⟨queue, hb, hsettled⟩ := new_settles settings before False.elim
  have hnew : (new settings).chords.Idle := ⟨hcombos, rfl, rfl⟩
  rw [ChordDetector.signalAll_idle hnew, Call.events_signals] at hsettled
  -- the press that follows finds the key up
  have hturns := (alternates.of_prefix (List.prefix_append _ _)).turns key
  obtain ⟨hsound, haccount⟩ :=
    hsettled.modTap_account hkey (fun _ hmem => by cases hmem) (Turns.sound hturns)
  refine ⟨queue, hb, ModTapStage.pressCount_eq_zero hb hsound ?_, hsettled.sublist⟩
  rw [← haccount, ModTap.heldCount_nil, Int.zero_add]
  exact alternates.level_before

/-- What calls without chords settle after the backlog. -/
theorem settles_after {engine : Engine} (hidle : engine.chords.Idle) {queue : List KeyEvent}
    (hb : ModTapStage.Backlog engine.modTaps queue) (calls : List Call) :
    ∃ queue', ModTapStage.Backlog (engine.callAll calls).1.modTaps queue' ∧
      Settlement engine.modTaps.timers.term False engine.modTaps.held
        (queue ++ Call.events calls) (engine.settled calls)
        (engine.callAll calls).1.modTaps.held queue' := by
  obtain ⟨-, queue', hb', hsettled⟩ :=
    @ModTapStage.takeAll_settles False _ _ hb (calls.filterMap Call.signal?) False.elim
  rw [callAll_modTaps, settled, ChordDetector.signalAll_idle hidle]
  rw [Call.events_signals] at hsettled
  exact ⟨queue', hb', hsettled⟩

/-- A key that goes down once and does not come up is not tapped. -/
theorem not_taps_of_down {term : Nat} {held held' : List ModTap} {events left front : List KeyEvent}
    {outputs : List StageOutput}
    (h : Settlement term False held events outputs held' left)
    (hfront : pressCount modTap.key front = 0) {back : List Stroke}
    (hsplit : events.map KeyEvent.stroke =
      front.map KeyEvent.stroke ++ .down modTap.key :: back)
    (hback : .up modTap.key ∉ back) : ¬Taps modTap outputs := by
  rintro ⟨press, release, hmem⟩
  -- a tap takes a press and a release after it
  have hpair := h.sublist_of_tap hmem
  rw [hsplit] at hpair
  obtain ⟨one, other, heq, hone, hother⟩ := List.sublist_append_iff.mp hpair
  -- the press is not in the first part, and the release is not in the second
  cases one with
  | nil =>
    rw [List.nil_append] at heq
    rw [← heq] at hother
    cases hother with
    | cons _ h => exact hback (h.subset (by simp))
    | cons_cons _ h => exact hback (h.subset (by simp))
  | cons stroke rest =>
    obtain ⟨rfl, -⟩ := List.cons.inj heq
    exact List.count_eq_zero.mp hfront (hone.subset (by simp))

/-- Up to its release a press is in the backlog or settled, once, and not tapped. -/
theorem settles_press (hcombos : settings.combos = []) {between : List Call}
    {press release : KeyEvent} (hkey : ModTap.ofKey? press.key = some modTap)
    (hdown : press.action = .press)
    (alternates : Alternates
      (Call.strokes (before ++ .event press :: (between ++ [.event release]))))
    (sorted : (Call.times (before ++ .event press :: (between ++ [.event release]))).Pairwise
      (· ≤ ·))
    (hbetween : ∀ event ∈ Call.events between, event.key ≠ press.key) :
    let engine := ((new settings).callAll before).1
    let outputs := engine.settled (.event press :: between)
    let stage := (engine.callAll (.event press :: between)).1.modTaps
    ∃ queue queue', ModTapStage.Backlog stage queue' ∧
      Settlement engine.modTaps.timers.term False engine.modTaps.held queue outputs stage.held
        queue' ∧
      pressCount press.key queue = 1 ∧ ModTapStage.Awaits press.key press.time queue ∧
      ¬Taps modTap outputs := by
  intro engine outputs stage
  have hidle := Reachable.idle ⟨before, rfl⟩ hcombos
  have hsame := ModTap.key_of_ofKey? hkey
  have hstrokes : Call.strokes (before ++ .event press :: (between ++ [.event release])) =
      Call.strokes before ++ .down press.key :: Call.strokes (between ++ [.event release]) := by
    rw [Call.strokes_append, Call.strokes_event, KeyEvent.stroke_of_press hdown]
  rw [hstrokes] at alternates
  -- nothing of the key is left from before the press, and nothing follows it
  obtain ⟨queue, hb, hnone, hsub⟩ := backlog_before hcombos hkey alternates
  obtain ⟨queue', hb', hsettled⟩ := settles_after hidle hb (.event press :: between)
  have hquiet (action : Action) : ⟨press.key, action⟩ ∉ Call.strokes between := by
    intro hmem
    obtain ⟨event, hmem, hstroke⟩ := List.mem_map.mp hmem
    exact hbetween event hmem (congrArg Stroke.key hstroke)
  have hevents : Call.events (.event press :: between) = press :: Call.events between := rfl
  rw [hevents] at hsettled
  have hcount : pressCount press.key (queue ++ press :: Call.events between) = 1 := by
    rw [pressCount_append, pressCount_press hdown, hnone, if_pos rfl,
      show pressCount press.key (Call.events between) = 0 from
        List.count_eq_zero.mpr (hquiet .press)]
  have hno : ¬Taps modTap outputs := not_taps_of_down hsettled (hsame ▸ hnone)
    (by rw [List.map_append, List.map_cons, KeyEvent.stroke_of_press hdown, hsame])
    (by rw [hsame]; exact hquiet .release)
  refine ⟨_, queue', hb', hsettled, hcount, ?_, hno⟩
  -- the backlog and what follows are in order of time, for the calls are
  have hall : (queue ++ press :: Call.events between).Sublist
      (Call.events (before ++ .event press :: (between ++ [.event release]))) := by
    rw [Call.events_append]
    refine hsub.append ?_
    show (press :: Call.events between).Sublist
      (press :: Call.events (between ++ [.event release]))
    rw [Call.events_append]
    exact (List.sublist_append_left _ _).cons_cons _
  refine ⟨by omega, fun event hmem hstroke => ?_, (Call.events_sorted sorted).sublist hall⟩
  rcases List.mem_append.mp hmem with hmem | hmem
  · exact absurd (List.mem_map.mpr ⟨event, hmem, hstroke⟩) (List.count_eq_zero.mp hnone)
  · rcases List.mem_cons.mp hmem with rfl | hmem
    · rfl
    · exact absurd (congrArg Stroke.key hstroke) (hbetween event hmem)

/-- **A mod-tap that is down for its whole term is held and not tapped, unless**
the stage, just before it comes up, `TapsLate`. -/
theorem holds_iff_not_tapsLate (settings : EngineSettings) (hcombos : settings.combos = [])
    {before between : List Call} {press release : KeyEvent} {modTap : ModTap}
    (hkey : ModTap.ofKey? press.key = some modTap)
    (hdown : press.action = .press) (hup : release.stroke = .up press.key)
    (alternates : Alternates
      (Call.strokes (before ++ .event press :: (between ++ [.event release]))))
    (sorted : (Call.times (before ++ .event press :: (between ++ [.event release]))).Pairwise
      (· ≤ ·))
    (hbetween : ∀ event ∈ Call.events between, event.key ≠ press.key)
    (hterm : settings.tappingTerm ≤ release.time - press.time) :
    let engine := ((new settings).callAll before).1
    let outputs := engine.settled (.event press :: (between ++ [.event release]))
    let stage := (engine.callAll (.event press :: between)).1.modTaps
    (Holds modTap outputs ∧ ¬Taps modTap outputs ↔ ¬ModTapStage.TapsLate stage press.key) ∧
      (ModTapStage.TapsLate stage press.key → ∃ down up, .tap modTap down up ∈ outputs ∧
        down.time = press.time ∧ up.time = release.time) := by
  intro engine outputs stage
  have hreach : Reachable settings (engine.callAll (.event press :: between)).1 :=
    Reachable.callAll ⟨before, rfl⟩ _
  have hstage : stage.timers.term = settings.tappingTerm := hreach.term
  obtain ⟨queue, queue', hb, hsettled, hcount, hawaits, hno⟩ :=
    settles_press hcombos hkey hdown alternates sorted hbetween
  have hle := pressCount_le_of_sublist hsettled.sublist press.key
  have houtputs : outputs =
      engine.settled (.event press :: between) ++ (stage.route release).2 := by
    show engine.settled (.event press :: between ++ [.event release]) = _
    rw [settled_append, settled_event (hreach.idle hcombos)]
  suffices h : HeldUnless (ModTapStage.TapsLate stage press.key) modTap press.time release.time
      outputs by
    refine ⟨⟨fun hheld hlate => (h.1 hlate).2 hheld.1, h.2⟩, fun hlate => (h.1 hlate).1⟩
  rw [houtputs]
  by_cases hin : pressCount press.key queue' = 0
  · -- the mod-tap was held before its release
    have hholds := (hsettled.holds_or_taps hkey
      (by have := hsettled.press_account hkey; omega)).resolve_right hno
    have hrelease : pressCount press.key ([ModTapStage.Task.route release].map
        ModTapStage.Task.event) = 0 := by
      show pressCount press.key [release] = 0
      rw [pressCount_release (congrArg Stroke.action hup)]
      rfl
    exact heldUnless_of_holds (ModTapStage.not_tapsLate hb hin) ⟨hholds, hno⟩
      (ModTapStage.run_not_settled hb hkey hin hrelease)
  · -- its press still waits, and all depends on what the release finds
    refine HeldUnless.after ?_ (hsettled.not_settled hkey (by omega))
    exact ModTapStage.route_release hb hkey (hawaits.sublist hsettled.sublist)
      (Nat.pos_of_ne_zero hin) hup (by rwa [hstage])

/-- `homeS` behind `homeN`, both past their term, is tapped by its release. -/
theorem tap_of_tapsLate :
    let engine := ((new {}).callAll [.event (.press .homeN ∅ 0)]).1
    let calls : List Call := [.event (.press .homeS ∅ 10), .event (.release .homeS ∅ 210)]
    ∃ down up, .tap ⟨.homeS, .s, .leftGui⟩ down up ∈ engine.settled calls ∧
      down.time = 10 ∧ up.time = 210 :=
  (@holds_iff_not_tapsLate {} rfl [.event (.press .homeN ∅ 0)] [] (.press .homeS ∅ 10)
    (.release .homeS ∅ 210) ⟨.homeS, .s, .leftGui⟩ rfl rfl rfl (by decide) (by decide)
    (by simp [Call.events]) (by decide)).2 ⟨1, rfl, ⟨⟨.homeS, .s, .leftGui⟩, []⟩, by cbv, rfl⟩

/-- The host gets an `s` that was down for its whole term. -/
theorem outputs_of_tapsLate :
    let press : KeyEvent := .press .homeS ∅ 10
    let release : KeyEvent := .release .homeS ∅ 210
    let calls : List Call :=
      [.event (.press .homeN ∅ 0), .event press, .event release, .event (.release .homeN ∅ 220)]
    Alternates (Call.strokes calls) ∧ (Call.times calls).Pairwise (· ≤ ·) ∧
      ({} : EngineSettings).tappingTerm ≤ release.time - press.time ∧
      ((new {}).callAll calls).2.outputs =
        [.forward .leftAlt .press ∅, .forward .s .press ∅, .forward .s .release ∅,
          .forward .leftAlt .release ∅] :=
  ⟨by decide, by decide, by decide, by cbv⟩

end Engine

end Keymap
