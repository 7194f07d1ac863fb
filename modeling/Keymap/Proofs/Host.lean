import Keymap.Editor
import Keymap.Proofs.ModTap.Levels
import Keymap.Proofs.Run
import Keymap.Proofs.ToldModifiers
import Keymap.Proofs.Typist.Forward

/-!
# What reaches the host

What leaves the mod-tap stage decides which transitions reach the host and which
keys the timers of the typist wait for.

- `Editor.emitAll_held`: the editor holds the modifiers whose keys are down.
- `Engine.callAll_forwards`: **the host is sent the strokes of plain keys** that
  leave the mod-tap stage, in order.
- `Engine.callAll_isPressed`: **a dual key has a record while it is down**.
-/

namespace Keymap

open Stroke

/-! ## The editor -/

namespace Editor

theorem press_held (editor : Editor) (key : Key) (mods : ModMask) :
    (editor.press key mods).held = editor.held := by
  unfold press
  split
  · unfold backspace
    split <;> rfl
  all_goals try rfl
  split
  · rfl
  · split <;> rfl

theorem foldl_insert_held (editor : Editor) (chars : List Char) :
    (chars.foldl insert editor).held = editor.held := by
  induction chars generalizing editor with
  | nil => rfl
  | cons c rest ih => exact ih _

/-- The editor holds a modifier after an output if its key is down. -/
theorem emit_held (editor : Editor) (output : Output) (m : Modifier) :
    (editor.emit output).held.holds m =
      isDown m.key (editor.held.holds m) output.stroke?.toList := by
  cases output with
  | tap key mods =>
    show (editor.press key mods).held.holds m = editor.held.holds m
    rw [press_held]
  | text chars shifted =>
    show (List.foldl insert editor _).held.holds m = editor.held.holds m
    rw [foldl_insert_held]
  | forward key action extra =>
    show (editor.transition key action extra).held.holds m =
      if key = m.key then action == .press else editor.held.holds m
    cases hkey : key.modifier? with
    | none =>
      -- the key of a modifier would have been one
      have hne : key ≠ m.key := by
        rintro rfl
        simp at hkey
      rw [if_neg hne]
      cases action with
      | press => simp only [transition, hkey, press_held]
      | release => simp only [transition, hkey]
    | some m' =>
      obtain rfl := Key.eq_key_of_modifier? hkey
      by_cases h : m' = m
      · rw [h, if_pos rfl]
        cases action <;> simp [transition]
      · rw [if_neg (fun hkeys => h (Modifier.key_inj.mp hkeys))]
        cases action <;> simp [transition, Ne.symm h]

/-- The editor holds the modifiers whose keys are down after some strokes and those of an
output. -/
theorem held_emit {editor : Editor} {strokes : List Stroke}
    (h : editor.held = modsDown strokes) (output : Output) :
    (editor.emit output).held = modsDown (strokes ++ output.stroke?.toList) := by
  refine ModMask.ext_holds fun m => ?_
  rw [emit_held, h]
  unfold modsDown
  rw [ModMask.holds_ofTest, ModMask.holds_ofTest, isDown_append]

/-- **The editor holds the modifiers whose keys are down.** -/
theorem emitAll_held (editor : Editor) (outputs : List Output) (m : Modifier) :
    (editor.emitAll outputs).held.holds m =
      isDown m.key (editor.held.holds m) (outputs.filterMap Output.stroke?) := by
  induction outputs generalizing editor with
  | nil => rfl
  | cons output rest ih =>
    show ((editor.emit output).emitAll rest).held.holds m = _
    rw [ih, emit_held, ← isDown_append]
    cases hstroke : output.stroke? with
    | none => rw [List.filterMap_cons_none hstroke]; rfl
    | some stroke => rw [List.filterMap_cons_some hstroke]; rfl

end Editor

/-! ## The typist -/

namespace Engine

/-- Of what leaves the mod-tap stage, the strokes of plain keys are sent on. -/
theorem settle_forwards (typist : Typist) (output : StageOutput) :
    (settle typist output).2.outputs.filterMap Output.stroke? =
      output.strokes.filter Stroke.isPlain := by
  -- the typist sends an event on just if the filter lets its stroke through
  have hsent (event : KeyEvent) (back : List Stroke) :
      (if event.key.isPlain then [event.stroke] else []) ++
          back.filter Stroke.isPlain =
        (event.stroke :: back).filter Stroke.isPlain := by
    rw [List.filter_cons, show event.stroke.isPlain = event.key.isPlain from rfl]
    split <;> rfl
  cases output with
  | pass event =>
    rw [settle, Typist.handle_forwards, StageOutput.strokes, ← hsent]
    exact (List.append_nil _).symm
  | tap modTap press release =>
    simp only [settle, Response.outputs_append, List.filterMap_append, Typist.handle_forwards,
      StageOutput.strokes]
    rw [← hsent, ← hsent]
    exact congrArg _ (List.append_nil _).symm
  | hold modTap first =>
    cases first with
    | false => rfl
    | true =>
      have hplain : (down modTap.modifier.key).isPlain = true := modTap.modifier.isPlain_key
      show [down modTap.modifier.key] = List.filter Stroke.isPlain [down modTap.modifier.key]
      rw [List.filter_cons_of_pos hplain, List.filter_nil]
  | lift modTap last =>
    cases last with
    | false => rfl
    | true =>
      have hplain : (up modTap.modifier.key).isPlain = true := modTap.modifier.isPlain_key
      show [up modTap.modifier.key] = List.filter Stroke.isPlain [up modTap.modifier.key]
      rw [List.filter_cons_of_pos hplain, List.filter_nil]

theorem settleAll_forwards (typist : Typist) (outputs : List StageOutput) :
    (settleAll typist outputs).2.outputs.filterMap Output.stroke? =
      (outputs.flatMap StageOutput.strokes).filter Stroke.isPlain := by
  induction outputs generalizing typist with
  | nil => rfl
  | cons output rest ih =>
    simp only [settleAll, Response.outputs_append, List.filterMap_append, settle_forwards, ih,
      List.flatMap_cons, List.filter_append]

/-- A dual key has a record after what leaves the mod-tap stage if it is down. -/
theorem settle_isPressed (typist : Typist) (output : StageOutput) {key : Key}
    (hkey : key.isDual = true) :
    (settle typist output).1.timers.isPressed key =
      isDown key (typist.timers.isPressed key) output.strokes := by
  have hhandle (typist : Typist) (event : KeyEvent) :
      (typist.handle event).1.timers.isPressed key =
        if event.key = key then event.isPress else typist.timers.isPressed key := by
    rw [Typist.handle_isPressed]
    by_cases h : event.key = key
    · simp [h, hkey]
    · simp [h]
  -- what a hold sends is no dual key
  have hmod (m : Modifier) : m.key ≠ key := by
    rintro rfl
    simp [m.isDual_key] at hkey
  cases output with
  | pass event => exact hhandle typist event
  | tap modTap press release =>
    simp only [settle, hhandle]
    rfl
  | hold modTap first => cases first <;> simp [settle, StageOutput.strokes, isDown, hmod]
  | lift modTap last => cases last <;> simp [settle, StageOutput.strokes, isDown, hmod]

theorem settleAll_isPressed (typist : Typist) (outputs : List StageOutput) {key : Key}
    (hkey : key.isDual = true) :
    (settleAll typist outputs).1.timers.isPressed key =
      isDown key (typist.timers.isPressed key) (outputs.flatMap StageOutput.strokes) := by
  induction outputs generalizing typist with
  | nil => rfl
  | cons output rest ih =>
    rw [List.flatMap_cons, isDown_append, ← settle_isPressed typist output hkey]
    exact ih _

/-- Only dual keys have records. -/
theorem settleAll_isPressed_of_not_isDual (typist : Typist) (outputs : List StageOutput)
    {key : Key} (hkey : key.isDual = false) :
    (settleAll typist outputs).1.timers.isPressed key = typist.timers.isPressed key := by
  have hhandle (typist : Typist) (event : KeyEvent) :
      (typist.handle event).1.timers.isPressed key = typist.timers.isPressed key := by
    rw [Typist.handle_isPressed, if_neg]
    rintro ⟨hdual, rfl⟩
    simp [hkey] at hdual
  induction outputs generalizing typist with
  | nil => rfl
  | cons output rest ih =>
    refine (ih _).trans ?_
    cases output with
    | pass event => exact hhandle typist event
    | tap modTap press release => simp only [hhandle]
    | hold modTap first => rfl
    | lift modTap last => rfl

/-! ## Runs -/

/-- A layer or caps word from outside types nothing and moves no record. -/
theorem call_untimed (engine : Engine) (call : Call) (h : call.time? = none) :
    (engine.call call).2.outputs = [] ∧
      (engine.call call).1.typist.timers = engine.typist.timers ∧
      (engine.chords.signal call).2 = [] := by
  cases call with
  | event event => simp [Call.time?] at h
  | tick now => simp [Call.time?] at h
  | layer layer =>
    have htimers := congrArg Typist.timers (engine.typist.setLayer_fst layer)
    exact ⟨engine.typist.setLayer_outputs layer, htimers, rfl⟩
  | capsWord active =>
    have htimers := congrArg Typist.timers (engine.typist.setCapsWord_fst active)
    exact ⟨engine.typist.setCapsWord_outputs active, htimers, rfl⟩

/-- **The host is sent the strokes of plain keys** that leave the mod-tap stage. -/
theorem callAll_forwards (engine : Engine) (calls : List Call) :
    (engine.callAll calls).2.outputs.filterMap Output.stroke? =
      ((engine.settled calls).flatMap StageOutput.strokes).filter Stroke.isPlain := by
  induction calls generalizing engine with
  | nil => rfl
  | cons call rest ih =>
    rw [callAll_cons, settled_cons, List.flatMap_append, List.filter_append, ← ih]
    simp only [Response.outputs_append, List.filterMap_append]
    congr 1
    cases htime : call.time? with
    | none =>
      obtain ⟨houtputs, -, hsignals⟩ := engine.call_untimed call htime
      rw [houtputs, hsignals]
      rfl
    | some now =>
      have htyped := engine.call_typist call (by simp [htime])
      rw [← settleAll_forwards engine.typist, ← htyped]

/-- **A dual key has a record while it is down**, and no other key has one. -/
theorem callAll_isPressed (engine : Engine) (calls : List Call) (key : Key) :
    (engine.callAll calls).1.typist.timers.isPressed key =
      if key.isDual then
        isDown key (engine.typist.timers.isPressed key)
          ((engine.settled calls).flatMap StageOutput.strokes)
      else engine.typist.timers.isPressed key := by
  induction calls generalizing engine with
  | nil => simp [isDown, settled, ChordDetector.signalAll]
  | cons call rest ih =>
    rw [callAll_cons, settled_cons, List.flatMap_append, isDown_append]
    refine (ih _).trans ?_
    have hcall : (engine.call call).1.typist.timers.isPressed key =
        if key.isDual then
          isDown key (engine.typist.timers.isPressed key)
            ((engine.modTaps.takeAll (engine.chords.signal call).2).2.flatMap
              StageOutput.strokes)
        else engine.typist.timers.isPressed key := by
      cases htime : call.time? with
      | none =>
        obtain ⟨-, htimers, hsignals⟩ := engine.call_untimed call htime
        rw [htimers, hsignals]
        simp [isDown]
      | some now =>
        have htyped := congrArg Prod.fst (engine.call_typist call (by simp [htime]))
        rw [show (engine.call call).1.typist = _ from htyped]
        cases hkey : key.isDual with
        | true => exact settleAll_isPressed _ _ hkey
        | false => exact settleAll_isPressed_of_not_isDual _ _ hkey
    rw [hcall]
    cases key.isDual <;> rfl

end Engine

end Keymap
