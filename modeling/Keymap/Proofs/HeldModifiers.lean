import Keymap.Proofs.Chord.Keys
import Keymap.Proofs.Order

/-!
# The modifiers of held mod-taps

Several mod-taps may hold the same modifier. The host hears of it when the first of
them settles as a hold, and again when the last one comes up, so that the host and
the engine agree on what is held.

- `ModTap.changes`: what there is to tell of a modifier when other mod-taps are held
  than before.
- `StageOutput.heldAfter`: the mod-taps that are held after what left the stage.
- `StageOutput.Tells`: each thing that leaves the stage tells of the change it makes.
- `Settlement.tells`: settling tells of every change, whatever it replays.
- `Engine.callAll_held_agrees`: **the modifiers of the host are those of the engine**.
-/

namespace Keymap

open Stroke

/-- The strokes of one key. -/
def Stroke.ofKey (key : Key) (strokes : List Stroke) : List Stroke :=
  strokes.filter fun stroke => stroke.key == key

theorem Stroke.isDown_ofKey (key : Key) (before : Bool) (strokes : List Stroke) :
    isDown key before (ofKey key strokes) = isDown key before strokes :=
  isDown_filter (fun _ hkey => beq_iff_eq.mpr hkey) before strokes

/-! ## What there is to tell -/

namespace ModTap

/-- What there is to tell of a modifier when the mod-taps that are held change. -/
def changes (m : Modifier) (before after : List ModTap) : List Stroke :=
  match anyHolds before m, anyHolds after m with
  | false, true => [down m.key]
  | true, false => [up m.key]
  | false, false | true, true => []

/-- One who is told of the changes knows whether the modifier is held. -/
theorem isDown_changes (m : Modifier) (before after : List ModTap) :
    isDown m.key (anyHolds before m) (changes m before after) = anyHolds after m := by
  unfold changes
  cases hbefore : anyHolds before m with
  | false => cases hafter : anyHolds after m <;> simp [isDown, down]
  | true => cases hafter : anyHolds after m <;> simp [isDown, up]

/-- There is nothing to tell while nothing changes. -/
theorem changes_of_eq {m : Modifier} {before after : List ModTap}
    (h : anyHolds before m = anyHolds after m) : changes m before after = [] := by
  unfold changes
  rw [h]
  cases anyHolds after m <;> rfl

theorem anyHolds_hold (held : List ModTap) (modTap : ModTap) (m : Modifier) :
    anyHolds (held ++ [modTap]) m = (anyHolds held m || modTap.modifier == m) := by
  simp [anyHolds]

/-- The modifiers of some mod-taps are those that one of them holds. -/
theorem holds_modsOf (held : List ModTap) (m : Modifier) :
    (modsOf held).holds m = anyHolds held m := by
  have hfold (mods : ModMask) :
      (held.foldl (fun mods modTap => mods ∪ modTap.mask) mods).holds m =
        (mods.holds m || anyHolds held m) := by
    induction held generalizing mods with
    | nil => simp [anyHolds]
    | cons modTap rest ih =>
      have hcomm : (m == modTap.modifier) = (modTap.modifier == m) := BEq.comm
      show (List.foldl _ (mods ∪ modTap.mask) rest).holds m = _
      rw [ih, mask, ModMask.holds_union, ModMask.holds_single, hcomm, Bool.or_assoc]
      rfl
  unfold modsOf
  rw [hfold, ModMask.holds_empty, Bool.false_or]

end ModTap

/-! ## What leaves the stage -/

namespace StageOutput

/-- The mod-taps that are held once something has left the stage. -/
def heldNext (held : List ModTap) : StageOutput → List ModTap
  | .hold modTap _ => held ++ [modTap]
  | .lift modTap _ => held.eraseP fun other => other.key == modTap.key
  | .pass _ | .tap _ _ _ => held

/-- The mod-taps that are held after all that has left the stage. -/
def heldAfter (held : List ModTap) (outputs : List StageOutput) : List ModTap :=
  outputs.foldl heldNext held

/-- Each thing that leaves the stage tells of the change it makes to a modifier, and
of nothing else. -/
def Tells (m : Modifier) (held : List ModTap) (outputs : List StageOutput) : Prop :=
  ∀ front output back, outputs = front ++ output :: back →
    ofKey m.key output.strokes =
      ModTap.changes m (heldAfter held front) (output.heldNext (heldAfter held front))

variable {m : Modifier} {held : List ModTap} {output : StageOutput} {rest : List StageOutput}

theorem tells_cons : Tells m held (output :: rest) ↔
    ofKey m.key output.strokes = ModTap.changes m held (output.heldNext held) ∧
      Tells m (output.heldNext held) rest := by
  constructor
  · intro h
    refine ⟨h [] output rest rfl, fun front other back hsplit => ?_⟩
    exact h (output :: front) other back (by rw [hsplit, List.cons_append])
  · rintro ⟨hfirst, hrest⟩ front other back hsplit
    cases front with
    | nil =>
      obtain ⟨rfl, -⟩ := List.cons.inj hsplit
      exact hfirst
    | cons first front =>
      obtain ⟨rfl, htail⟩ := List.cons.inj hsplit
      exact hrest front other back htail

/-- **One who is told knows what is held.** -/
theorem Tells.isDown_strokes {outputs : List StageOutput} (h : Tells m held outputs) :
    isDown m.key (ModTap.anyHolds held m) (outputs.flatMap strokes) =
      ModTap.anyHolds (heldAfter held outputs) m := by
  induction outputs generalizing held with
  | nil => rfl
  | cons output rest ih =>
    obtain ⟨hfirst, hrest⟩ := tells_cons.mp h
    rw [List.flatMap_cons, isDown_append, ← isDown_ofKey m.key _ output.strokes, hfirst,
      ModTap.isDown_changes]
    exact ih hrest

/-- One mod-tap more or less is a change to its modifier if no other holds that. -/
theorem ofKey_change (m : Modifier) {less more : List ModTap} {modTap : ModTap}
    (h : more.Perm (less ++ [modTap])) (action : Action) :
    ofKey m.key
        (if !ModTap.anyHolds less modTap.modifier then [⟨modTap.modifier.key, action⟩] else []) =
      match action with
      | .press => ModTap.changes m less more
      | .release => ModTap.changes m more less := by
  have hmore (m : Modifier) :
      ModTap.anyHolds more m = (ModTap.anyHolds less m || modTap.modifier == m) :=
    h.any_eq.trans (ModTap.anyHolds_hold less modTap m)
  by_cases hm : modTap.modifier = m
  · subst hm
    unfold ModTap.changes
    rw [hmore, beq_self_eq_true, Bool.or_true]
    cases ModTap.anyHolds less modTap.modifier with
    | false => cases action <;> simp [ofKey, down, up]
    | true => cases action <;> rfl
  · have hsame : ModTap.anyHolds more m = ModTap.anyHolds less m := by simp [hmore, hm]
    have hkey : modTap.modifier.key ≠ m.key := fun heq => hm (Modifier.key_inj.mp heq)
    rw [ModTap.changes_of_eq hsame, ModTap.changes_of_eq hsame.symm]
    cases action <;> cases ModTap.anyHolds less modTap.modifier <;> simp [ofKey, hkey]

/-- A hold tells if no other mod-tap holds its modifier. -/
theorem ofKey_hold (m : Modifier) (held : List ModTap) (modTap : ModTap) :
    ofKey m.key (StageOutput.hold modTap (!ModTap.anyHolds held modTap.modifier)).strokes =
      ModTap.changes m held (held ++ [modTap]) :=
  ofKey_change m (List.Perm.refl _) .press

/-- A lift tells if no other mod-tap holds its modifier. -/
theorem ofKey_lift (m : Modifier) {held rest : List ModTap} {modTap : ModTap}
    (h : held.Perm (rest ++ [modTap])) :
    ofKey m.key (StageOutput.lift modTap (!ModTap.anyHolds rest modTap.modifier)).strokes =
      ModTap.changes m held rest :=
  ofKey_change m h .release

end StageOutput

/-! ## The mod-tap stage -/

namespace Settlement

variable {term : Nat} {ordered : Prop} {held held' : List ModTap}
  {events left : List KeyEvent} {outputs : List StageOutput}

/-- What is held in the end is what was held and not lifted. -/
theorem heldAfter_eq (h : Settlement term ordered held events outputs held' left) :
    StageOutput.heldAfter held outputs = held' := by
  induction h with
  | stop => rfl
  | pass hkey _ ih => exact ih
  | lift hkey hup hheld _ ih => exact ih
  | stray hkey hup hheld _ ih => exact ih
  | hold hkey hdown why _ ih => exact ih
  | tap hkey hdown hup hfirst hfree _ ih => exact ih

/-- **Settling tells of every change** to a modifier whose key is not among the events. -/
theorem tells {m : Modifier} (h : Settlement term ordered held events outputs held' left)
    (genuine : ModTap.Genuine held) (hother : ∀ event ∈ events, event.key ≠ m.key) :
    StageOutput.Tells m held outputs := by
  -- a settled event of another key has nothing to tell
  have hsilent {held : List ModTap} {strokes : List Stroke}
      (hstrokes : ∀ stroke ∈ strokes, stroke.key ≠ m.key) :
      ofKey m.key strokes = ModTap.changes m held held := by
    rw [ModTap.changes_of_eq rfl]
    exact List.filter_eq_nil_iff.mpr fun stroke hmem => by simpa using hstrokes stroke hmem
  induction h with
  | stop => simp [StageOutput.Tells]
  | @pass held event rest outputs held' left hkey _ ih =>
    obtain ⟨hevent, hrest⟩ := List.forall_mem_cons.mp hother
    refine StageOutput.tells_cons.mpr ⟨hsilent ?_, ih genuine hrest⟩
    intro stroke hmem
    rw [List.mem_singleton.mp hmem]
    exact hevent
  | @lift held event rest outputs held' left modTap hkey hup hheld _ ih =>
    obtain ⟨-, hrest⟩ := List.forall_mem_cons.mp hother
    have hperm := ModTap.perm_lift hkey genuine hheld
    exact StageOutput.tells_cons.mpr
      ⟨StageOutput.ofKey_lift m hperm, ih (genuine.lift _) hrest⟩
  | @stray held event rest outputs held' left modTap hkey hup hheld _ ih =>
    exact ih genuine (List.forall_mem_cons.mp hother).2
  | @hold held press rest outputs held' left modTap hkey hdown why _ ih =>
    obtain ⟨-, hrest⟩ := List.forall_mem_cons.mp hother
    exact StageOutput.tells_cons.mpr
      ⟨StageOutput.ofKey_hold m held modTap, ih (genuine.hold hkey) hrest⟩
  | @tap held press front release back outputs held' left modTap hkey hdown hup hfirst hfree _ ih =>
    refine StageOutput.tells_cons.mpr ⟨hsilent ?_, ih genuine fun event hmem => ?_⟩
    · intro stroke hmem
      have hstroke : stroke.key = modTap.tap := by
        rcases List.mem_cons.mp hmem with rfl | hmem
        · rfl
        · rw [List.mem_singleton.mp hmem]
          rfl
      rw [hstroke]
      exact ModTap.tap_ne_modifier hkey m
    · have hsub : (front ++ back).Sublist (front ++ release :: back) :=
        List.Sublist.append_left (List.sublist_cons_self _ _) _
      exact hother event (List.mem_cons_of_mem _ (hsub.subset hmem))

end Settlement

/-! ## The engine -/

namespace Engine

/-- What a run of a fresh engine settles tells of every change to a modifier that is
neither fed nor the output of a chord. -/
theorem new_tells (settings : EngineSettings) {calls : List Call} {m : Modifier}
    (hcalls : ∀ event ∈ Call.events calls, event.key ≠ m.key)
    (hchords : ∀ chord ∈ settings.combos, chord.output ≠ m.key) :
    StageOutput.Tells m [] ((new settings).settled calls) ∧
      StageOutput.heldAfter [] ((new settings).settled calls) =
        ((new settings).callAll calls).1.modTaps.held := by
  obtain ⟨queue, -, hsettled⟩ := new_settles settings calls False.elim
  have hgives : (new settings).chords.Gives (· ≠ m.key) := ⟨hchords, fun _ hmem => by cases hmem⟩
  refine ⟨hsettled.tells (fun _ hmem => by cases hmem) ?_, hsettled.heldAfter_eq⟩
  exact ChordDetector.signalAll_keys hgives hcalls

/-- **The modifiers of the host are those of the engine.** Whatever is fed, after every
call the host holds a modifier if and only if a mod-tap holds it, for each modifier
that is neither fed nor the output of a chord. The host is sent its key down just when
the first mod-tap begins to hold it, and up just when the last one comes up. -/
theorem callAll_held_agrees (settings : EngineSettings) {calls : List Call} {m : Modifier}
    (hcalls : ∀ event ∈ Call.events calls, event.key ≠ m.key)
    (hchords : ∀ chord ∈ settings.combos, chord.output ≠ m.key) :
    (∀ front, front <+: calls →
      let run := (new settings).callAll front
      (Editor.emitAll {} run.2.outputs).held.holds m = run.1.modTapMods.holds m ∧
        StageOutput.heldAfter [] ((new settings).settled front) = run.1.modTaps.held) ∧
    ∀ front output sent back,
      (new settings).replies calls = front ++ (output, sent) :: back →
        let before := StageOutput.heldAfter [] (front.map Prod.fst)
        ofKey m.key (sent.filterMap Output.stroke?) =
          ModTap.changes m before (output.heldNext before) := by
  have hplain (stroke : Stroke) (hkey : stroke.key = m.key) : stroke.isPlain = true := by
    unfold Stroke.isPlain
    rw [hkey, m.isPlain_key]
  constructor
  · rintro front ⟨back, rfl⟩ run
    rw [Call.events_append] at hcalls
    obtain ⟨htells, hheld⟩ := new_tells settings (List.forall_mem_append.mp hcalls).1 hchords
    refine ⟨?_, hheld⟩
    calc (Editor.emitAll {} run.2.outputs).held.holds m
      _ = isDown m.key false (((new settings).settled front).flatMap StageOutput.strokes) := by
        rw [Editor.emitAll_held, callAll_forwards, isDown_filter hplain, ModMask.holds_empty]
      _ = ModTap.anyHolds run.1.modTaps.held m := by
        rw [← hheld]
        exact htells.isDown_strokes
      _ = run.1.modTapMods.holds m := (ModTap.holds_modsOf _ m).symm
  · intro front output sent back hsplit before
    obtain ⟨typist, hsent⟩ := isReply_of_mem_replies (output, sent) (by rw [hsplit]; simp)
    have hsettled : (new settings).settled calls =
        front.map Prod.fst ++ output :: back.map Prod.fst := by
      rw [← replies_fst, hsplit, List.map_append, List.map_cons]
    obtain ⟨htells, -⟩ := new_tells settings hcalls hchords
    rw [← htells _ output _ hsettled]
    -- of the strokes of plain keys, those of the modifier are all there
    show ofKey m.key (sent.filterMap Output.stroke?) = _
    rw [show sent = _ from hsent, settle_forwards]
    unfold ofKey
    rw [List.filter_filter]
    refine List.filter_congr fun stroke _ => ?_
    by_cases hkey : stroke.key = m.key
    · rw [hplain stroke hkey, Bool.and_true]
    · simp [hkey]

/-- E and the comma share the right GUI key: it stays down until both are up. -/
theorem callAll_held_agrees_right_gui :
    let settings : EngineSettings := { combos := [⟨.j, .k, .escape⟩] }
    let calls : List Call :=
      [.event (.press .homeE ∅ 0), .event (.press .homeComma ∅ 10), .tick 250,
        .event (.release .homeE ∅ 260), .event (.release .homeComma ∅ 270)]
    (∀ event ∈ Call.events calls, event.key ≠ Modifier.rightGui.key) ∧
    (∀ chord ∈ settings.combos, chord.output ≠ Modifier.rightGui.key) ∧
    ∀ front, front <+: calls →
      let run := (new settings).callAll front
      (Editor.emitAll {} run.2.outputs).held.holds .rightGui =
        run.1.modTapMods.holds .rightGui := by
  intro settings calls
  have hcalls : ∀ event ∈ Call.events calls, event.key ≠ Modifier.rightGui.key := by decide
  have hchords : ∀ chord ∈ settings.combos, chord.output ≠ Modifier.rightGui.key := by decide
  exact ⟨hcalls, hchords, fun front hfront =>
    ((callAll_held_agrees settings hcalls hchords).1 front hfront).1⟩

end Engine

end Keymap
