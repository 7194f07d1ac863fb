import Mathlib
import Keymap.Proofs.Chord.Ticks
import Keymap.Proofs.ModTap.Lateness
import Keymap.Proofs.NothingStuck

/-!
# Runs with and without ticks

A tick reads the clock between two events. What it can change is only which taps
come late: two runs of the same events, with whatever ticks in between, settle
alike if and only if their late taps are in the same places, and then type the
same. If they do not settle alike the host sees it, unless the hold that the late
tap stands for is one that it is not told of.

- `Parts.forwards_ne`: the host sees where two runs part over a hold that it is
  told of.
- `Engine.settled_unticked`: **ticks matter only for late taps**.
-/

namespace Keymap

open Stroke

theorem Call.events_unticked (calls : List Call) : events (unticked calls) = events calls := by
  rw [events, unticked, List.filterMap_map]
  exact List.filterMap_some

theorem Call.strokes_unticked (calls : List Call) : strokes (unticked calls) = strokes calls := by
  rw [strokes, strokes, events_unticked]

theorem Call.unticked_unticked (calls : List Call) :
    unticked (unticked calls) = unticked calls := by
  rw [unticked, events_unticked]
  rfl

theorem Call.times_unticked_sublist (calls : List Call) :
    (times (unticked calls)).Sublist (times calls) := by
  induction calls with
  | nil => exact List.Sublist.refl _
  | cons call rest ih =>
    cases call with
    | event event => exact ih.cons_cons event.time
    | tick now => exact ih.cons now
    | layer layer => exact ih
    | capsWord active => exact ih

/-- If the host is told of the hold it sees where two lists of outputs part. -/
theorem Parts.forwards_ne {term : Nat} {outputs outputs' : List StageOutput}
    (h : Parts term true outputs outputs') :
    (outputs.flatMap StageOutput.strokes).filter Stroke.isPlain ≠
      (outputs'.flatMap StageOutput.strokes).filter Stroke.isPlain := by
  induction h with
  | @here modTap press release back back' hkey hdown _ =>
    have hhold : (down modTap.modifier.key).isPlain = true := modTap.modifier.isPlain_key
    have htap : (down modTap.tap).isPlain = true := ModTap.isPlain_tap hkey
    simp only [List.flatMap_cons, StageOutput.strokes, if_true, List.cons_append,
      List.filter_cons_of_pos hhold, hdown, List.filter_cons_of_pos htap]
    exact fun h => ModTap.tap_ne_modifier hkey _ (down_inj.mp (List.cons.inj h).1).symm
  | later _ ih =>
    rw [List.flatMap_cons, List.flatMap_cons, List.filter_append, List.filter_append]
    exact fun h => ih (List.append_cancel_left h)

namespace Engine

variable (settings : EngineSettings) {calls : List Call}

theorem new_inTime (sorted : (Call.times calls).Pairwise (· ≤ ·)) :
    Signal.InTime ((new settings).chords.signalAll calls).2 :=
  (@ChordDetector.signalAll_inTime _ 0 (.of_held_eq_none rfl 0) calls
    (List.Pairwise.cons (fun _ _ => Nat.zero_le _) sorted)).1

/-- A run that leaves every key up settles all that comes out of the detector. -/
theorem settled_settles (sorted : (Call.times calls).Pairwise (· ≤ ·))
    (h : Complete (Call.strokes calls)) :
    Settlement settings.tappingTerm True []
      (Signal.events ((new settings).chords.signalAll (Call.unticked calls)).2)
      ((new settings).settled calls) [] [] := by
  obtain ⟨-, -, hsettled⟩ :=
    @new_settles_complete settings calls h True fun _ => new_inTime settings sorted
  have hheld := (signals_complete settings (Call.strokes_unticked calls ▸ h)).1.1
  rwa [ChordDetector.signalAll_unticked _ sorted hheld] at hsettled

/-- **Ticks matter only for late taps**: the runs with and without ticks settle
alike if and only if their late taps are in the same places. If they do, they send
the same to the host and the lights; if they do not, they send something else to
the host, unless they part over a hold that the host is not told of. -/
theorem settled_unticked (timed : ∀ call ∈ calls, call.time?.isSome)
    (sorted : (Call.times calls).Pairwise (· ≤ ·)) (alternates : Alternates (Call.strokes calls))
    (closed : ∀ key,
      (Call.strokes calls).count (.up key) = (Call.strokes calls).count (.down key)) :
    let term := settings.tappingTerm
    let ticked := (new settings).settled calls
    let plain := (new settings).settled (Call.unticked calls)
    (ticked = plain ↔ ∀ i, LateAt term ticked i ↔ LateAt term plain i) ∧
    (ticked = plain →
      ((new settings).callAll calls).2 = ((new settings).callAll (Call.unticked calls)).2) ∧
    (((new settings).callAll calls).2.outputs =
        ((new settings).callAll (Call.unticked calls)).2.outputs →
      ticked = plain ∨ Parts term false ticked plain ∨ Parts term false plain ticked) := by
  intro term ticked plain
  have hcomplete := alternates.complete closed
  have hticked := settled_settles settings sorted hcomplete
  have hplain := settled_settles settings
    (sorted.sublist (Call.times_unticked_sublist calls)) (Call.strokes_unticked calls ▸ hcomplete)
  rw [Call.unticked_unticked] at hplain
  refine ⟨hticked.unique hplain, fun hsettled => ?_, fun houtputs => ?_⟩
  · have htimed' : ∀ call ∈ Call.unticked calls, call.time?.isSome := by
      intro call hmem
      obtain ⟨event, -, rfl⟩ := List.mem_map.mp hmem
      rfl
    have htyped := congrArg Prod.snd (callAll_typist (new settings) calls timed)
    have htyped' := congrArg Prod.snd (callAll_typist (new settings) _ htimed')
    rw [show (new settings).settled calls = _ from hsettled] at htyped
    exact htyped.trans htyped'.symm
  -- the strokes sent to the host show where the two part, if the hold is told
  · have hforwards := congrArg (List.filterMap Output.stroke?) houtputs
    rw [callAll_forwards, callAll_forwards] at hforwards
    rcases hticked.eq_or_parts hplain with heq | ⟨first, hparts⟩
    · exact .inl heq
    · cases first with
      | false => exact .inr hparts
      | true =>
        rcases hparts with hparts | hparts
        · exact absurd hforwards hparts.forwards_ne
        · exact absurd hforwards.symm hparts.forwards_ne

/-- The host may miss the difference: while `homeE` is held, a chord types the
`homeComma` that is down, and one of its two presses is held in silence. -/
example :
    let engine := new { combos := [⟨.j, .k, .homeComma⟩] }
    let calls : List Call :=
      [.event (.press .homeE ∅ 0), .event (.press .x ∅ 300), .event (.press .homeN ∅ 400),
        .event (.press .homeS ∅ 401), .event (.press .homeD ∅ 402),
        .event (.press .homeComma ∅ 403), .tick 700, .tick 700, .tick 700, .tick 700,
        .event (.press .j ∅ 700), .event (.press .k ∅ 710), .event (.release .homeComma ∅ 1000)]
    (engine.callAll calls).2.outputs = (engine.callAll (Call.unticked calls)).2.outputs ∧
      (engine.settled calls)[5]? = some (.hold ⟨.homeComma, .comma, .rightGui⟩ false) ∧
      (engine.settled (Call.unticked calls))[6]? =
        some (.hold ⟨.homeComma, .comma, .rightGui⟩ false) :=
  ⟨by cbv, by cbv, by cbv⟩

/-- A tick that holds `homeN` at the end of its term leaves the rest as it is. -/
theorem settled_unticked_of_tick :
    let calls : List Call :=
      [.event (.press .homeN ∅ 0), .event (.press .a ∅ 10), .tick 200,
        .event (.release .a ∅ 210), .event (.release .homeN ∅ 220)]
    ((new {}).callAll calls).2 = ((new {}).callAll (Call.unticked calls)).2 :=
  have complete : Complete [.down .homeN, .down .a, .up .a, .up .homeN] := by decide
  (@settled_unticked {}
    [.event (.press .homeN ∅ 0), .event (.press .a ∅ 10), .tick 200,
      .event (.release .a ∅ 210), .event (.release .homeN ∅ 220)]
    (by decide) (by decide) (by decide) complete.closed).2.1 (by cbv)

/-- If the clock is read before each event, a `d` that was down for its whole term
is typed; if it is not, its modifier is held. In the end every key is up. -/
theorem outputs_ne_unticked :
    let calls : List Call :=
      [.tick 0, .event (.press .homeN ∅ 0), .tick 10, .event (.press .homeS ∅ 10),
        .tick 20, .event (.press .homeD ∅ 20), .tick 220, .event (.release .homeD ∅ 220),
        .tick 230, .event (.release .homeS ∅ 230), .tick 240, .event (.release .homeN ∅ 240)]
    (Call.times calls).Pairwise (· ≤ ·) ∧ Alternates (Call.strokes calls) ∧
      (∀ key, (Call.strokes calls).count (.up key) = (Call.strokes calls).count (.down key)) ∧
      ((new {}).callAll calls).2.outputs =
        [.forward .leftAlt .press ∅, .forward .leftGui .press ∅, .forward .d .press ∅,
          .forward .d .release ∅, .forward .leftGui .release ∅, .forward .leftAlt .release ∅] ∧
      ((new {}).callAll (Call.unticked calls)).2.outputs =
        [.forward .leftAlt .press ∅, .forward .leftGui .press ∅, .forward .leftCtrl .press ∅,
          .forward .leftCtrl .release ∅, .forward .leftGui .release ∅,
          .forward .leftAlt .release ∅] :=
  have complete : Complete [.down .homeN, .down .homeS, .down .homeD, .up .homeD, .up .homeS,
    .up .homeN] := by decide
  ⟨by decide, by decide, complete.closed, by cbv, by cbv⟩

end Engine

end Keymap
