import Keymap.Proofs.Typist.Steps
import Keymap.Proofs.Typist.Trackers

/-!
# The lights show the truth

The lights are told of a scheme now and then and show the last one until they are told
of another. What they should show follows from caps word and, while that is off, from
the layer. Both are written on many paths, and many steps may pass in one call. A press
can write caps word in two places, but a shift key that turns it on or off is let
through the gate that turns it off, so one step sends at most one scheme.

- `Panel`: caps word and the layer, from which the scheme follows.
- `Panel.shown`: one scheme for each flip of caps word and for each layer change while
  that is off.
- `Panel.getLast?_shown`: who is sent these knows the scheme.
- `Typist.toggleCapsWord_ledScheme`, `Typist.setCapsWord_ledScheme`: what is sent when caps
  word changes is the scheme that the lights should show.
- `Typist.panels`: the panels after each step of a run.
- `Engine.callAll_shown`: **the lights are sent these schemes and no others**.
-/

namespace Keymap

/-- What the scheme of the lights follows from. -/
structure Panel where
  capsWord : Bool
  layer : Layer
  deriving DecidableEq

namespace Panel

/-- The scheme that the lights should show. -/
def scheme (panel : Panel) : LedScheme :=
  if panel.capsWord then .capsWord else panel.layer.scheme

/-- Caps word is turned on or off. -/
def flips (before after : Panel) : Bool :=
  before.capsWord != after.capsWord

/-- The layer changes while caps word is off. -/
def changesLayer (before after : Panel) : Bool :=
  !before.capsWord && before.layer != after.layer

/-- The schemes to send when other panels follow one: one for each flip of caps word and
one for each change of the layer while that is off. -/
def shown (panel : Panel) : List Panel → List LedScheme
  | [] => []
  | next :: rest =>
    (if panel.flips next then [next.scheme] else []) ++
      (if panel.changesLayer next then [next.scheme] else []) ++ next.shown rest

/-- How often a test holds of a panel and the next one. -/
def count (test : Panel → Panel → Bool) (panel : Panel) : List Panel → Nat
  | [] => 0
  | next :: rest => (if test panel next then 1 else 0) + next.count test rest

theorem shown_append (panel : Panel) (front back : List Panel) :
    panel.shown (front ++ back) = panel.shown front ++ (front.getLastD panel).shown back := by
  induction front generalizing panel with
  | nil => rfl
  | cons next rest ih =>
    rw [List.cons_append, shown, shown, ih, List.getLastD_cons]
    simp only [List.append_assoc]

/-- While the layer stays, a scheme is sent if caps word flips. -/
theorem shown_of_layer_eq {before after : Panel} (h : before.layer = after.layer) :
    before.shown [after] = if before.flips after then [after.scheme] else [] := by
  have hlayer : before.changesLayer after = false := by simp [changesLayer, h]
  rw [shown, shown, hlayer, List.append_nil]
  exact List.append_nil _

/-- Nothing is sent while nothing changes. -/
theorem shown_self (panel : Panel) : panel.shown [panel] = [] := by
  rw [shown_of_layer_eq rfl, flips, bne_self_eq_false]
  rfl

/-- There are as many schemes as there are flips and layer changes. -/
theorem length_shown (panel : Panel) (rest : List Panel) :
    (panel.shown rest).length = panel.count flips rest + panel.count changesLayer rest := by
  induction rest generalizing panel with
  | nil => rfl
  | cons next rest ih =>
    rw [shown, count, count, List.length_append, List.length_append, ih]
    have hone (test : Bool) :
        (if test then [next.scheme] else []).length = if test then 1 else 0 := by
      cases test <;> rfl
    rw [hone, hone]
    omega

/-- Without a flip and a layer change while caps word is off the scheme is the same. -/
theorem scheme_eq {before after : Panel} (hflip : before.flips after = false)
    (hlayer : before.changesLayer after = false) : after.scheme = before.scheme := by
  have hcaps : before.capsWord = after.capsWord := by simpa [flips] using hflip
  unfold scheme
  rw [← hcaps]
  cases hon : before.capsWord with
  | true => rfl
  | false =>
    have hsame : before.layer = after.layer := by simpa [changesLayer, hon] using hlayer
    rw [hsame]

/-- **Who is sent the schemes knows the scheme** of the last panel. -/
theorem getLast?_shown (panel : Panel) (rest : List Panel) :
    (panel.scheme :: panel.shown rest).getLast? = some (rest.getLastD panel).scheme := by
  induction rest generalizing panel with
  | nil => rfl
  | cons next rest ih =>
    rw [List.getLastD_cons, ← ih next, shown]
    cases hflip : panel.flips next with
    | true => cases panel.changesLayer next <;> simp
    | false =>
      cases hlayer : panel.changesLayer next with
      | true => simp
      | false => simp [scheme_eq hflip hlayer]

end Panel

/-! ## The typist -/

namespace Typist

/-- The panel of a typist. -/
def panel (typist : Typist) : Panel where
  capsWord := typist.capsWord.active
  layer := typist.layer

/-- The panels after each of some steps. -/
def panels (typist : Typist) : List Step → List Panel
  | [] => []
  | first :: rest => (typist.step first).panel :: (typist.step first).panels rest

/-- The panels end with that of the typist after all steps. -/
theorem getLastD_panels (typist : Typist) (steps : List Step) :
    (typist.panels steps).getLastD typist.panel = (typist.stepAll steps).panel := by
  induction steps generalizing typist with
  | nil => rfl
  | cons first rest ih =>
    rw [panels, List.getLastD_cons, ih, stepAll_cons]

theorem panels_append (typist : Typist) (front back : List Step) :
    typist.panels (front ++ back) =
      typist.panels front ++ (typist.stepAll front).panels back := by
  induction front generalizing typist with
  | nil => rfl
  | cons first rest ih =>
    rw [List.cons_append, panels, panels, ih, stepAll_cons, List.cons_append]

theorem shown_panels_append (typist : Typist) (front back : List Step) :
    typist.panel.shown (typist.panels (front ++ back)) =
      typist.panel.shown (typist.panels front) ++
        (typist.stepAll front).panel.shown ((typist.stepAll front).panels back) := by
  rw [panels_append, Panel.shown_append, getLastD_panels]

/-! ### What is sent for a step -/

/-- What is sent for a toggle is the scheme that the lights should show after it. -/
theorem toggleCapsWord_ledScheme (typist : Typist) :
    typist.toggleCapsWord.2 = [typist.toggleCapsWord.1.ledScheme] := rfl

theorem toggleCapsWord_shown (typist : Typist) :
    typist.toggleCapsWord.2 = typist.panel.shown [typist.toggleCapsWord.1.panel] := by
  have hlayer : typist.panel.layer = typist.toggleCapsWord.1.panel.layer := rfl
  have hflips : typist.panel.flips typist.toggleCapsWord.1.panel = true :=
    Bool.bne_not_self typist.capsWord.active
  rw [Panel.shown_of_layer_eq hlayer, if_pos hflips]
  exact typist.toggleCapsWord_ledScheme

theorem watchShifts_shown (typist : Typist) (event : KeyEvent) :
    (typist.watchShifts event).2 =
      typist.panel.shown [(typist.watchShifts event).1.panel] := by
  unfold watchShifts
  split
  · exact typist.toggleCapsWord_shown
  · exact typist.panel.shown_self.symm

/-- The lights hear of the gate when it turns caps word off. -/
theorem gate_shown (typist : Typist) (event : KeyEvent) :
    (typist.gate event).2.2 = typist.panel.shown [(typist.gate event).1.panel] := by
  unfold gate CapsWord.onPress
  cases hactive : typist.capsWord.active with
  | false => exact typist.panel.shown_self.symm
  | true =>
    cases event.key.isModifier with
    | true => exact typist.panel.shown_self.symm
    | false =>
      cases event.mods.hasNonShift || !CapsWord.keepsAlive event.key with
      | true =>
        simp [panel, Panel.shown, Panel.flips, Panel.changesLayer, Panel.scheme, hactive]
      | false => exact typist.panel.shown_self.symm

/-- A key that switches a mode writes caps word once, if at all. -/
theorem press_modeSwitch_shown (typist : Typist) {event : KeyEvent}
    (h : event.key.role.isModeSwitch = true) :
    (typist.press event).2.schemes = typist.panel.shown [(typist.press event).1.panel] := by
  unfold press
  cases hrole : event.key.role with
  | capsWordToggle => exact typist.toggleCapsWord_shown
  | sentenceCaseOn | sentenceCaseToggle => exact typist.panel.shown_self.symm
  | _ =>
    rw [hrole] at h
    cases h

/-- Keys that toggle caps word together are modifiers. -/
theorem isModifier_of_bothShiftsDown {event : KeyEvent} (h : bothShiftsDown event = true) :
    event.key.isModifier = true := by
  unfold bothShiftsDown at h
  split at h
  · next hkey =>
    rw [hkey]
    rfl
  · next hkey =>
    rw [hkey]
    rfl
  · cases h

/-- The gate lets modifiers through. -/
theorem gate_of_isModifier (typist : Typist) {event : KeyEvent}
    (h : event.key.isModifier = true) :
    (typist.gate event).1 = typist ∧ (typist.gate event).2.2 = [] := by
  unfold gate CapsWord.onPress
  rw [h]
  cases typist.capsWord.active with
  | false => exact ⟨rfl, rfl⟩
  | true => exact ⟨rfl, rfl⟩

/-- What the trackers send for a press. Both shift keys and the gate never write caps
word for the same press. -/
theorem track_shown (typist : Typist) (event : KeyEvent) :
    (typist.track event).2.2 = typist.panel.shown [(typist.track event).1.panel] := by
  show (typist.watchShifts event).2 ++ ((typist.watchShifts event).1.gate event).2.2 =
    typist.panel.shown [((typist.watchShifts event).1.gate event).1.panel]
  by_cases hshifts : bothShiftsDown event = true
  · obtain ⟨hsame, hnone⟩ :=
      (typist.watchShifts event).1.gate_of_isModifier (isModifier_of_bothShiftsDown hshifts)
    rw [hsame, hnone, List.append_nil, watchShifts_shown]
  · have hwatched : typist.watchShifts event = (typist, []) := by
      rw [watchShifts, if_neg (by simp [hshifts])]
    rw [hwatched, List.nil_append, gate_shown]

/-- What comes behind the trackers writes neither caps word nor the layer. -/
theorem press_shown (typist : Typist) {event : KeyEvent}
    (h : event.key.role.isModeSwitch = false) :
    (typist.press event).2.schemes = typist.panel.shown [(typist.press event).1.panel] := by
  have hkey : (typist.press event).1.panel = (typist.track event).1.panel := by
    rw [typist.press_eq h, typeKey_eq]
    rfl
  rw [hkey, typist.press_eq h]
  exact typist.track_shown event

/-- A key that comes up writes neither. -/
theorem release_panel (typist : Typist) (event : KeyEvent) :
    (typist.release event).1.panel = typist.panel ∧ (typist.release event).2.schemes = [] := by
  unfold release
  cases hrole : event.key.role with
  | dual letters =>
    refine ⟨?_, rfl⟩
    show (typist.resolveDual letters event).1.panel = typist.panel
    obtain ⟨shown, capital, -, -, ⟨-, hresolve⟩ | ⟨-, hresolve⟩⟩ :=
      typist.resolveDual_cases letters event
    · rw [hresolve]
      rfl
    · rw [hresolve]
      rfl
  | _ => exact ⟨rfl, rfl⟩

/-- **What is sent for an event** is what its change of the panel makes due. -/
theorem handle_shown (typist : Typist) (event : KeyEvent) :
    (typist.handle event).2.schemes = typist.panel.shown [(typist.handle event).1.panel] := by
  unfold handle
  cases event.action with
  | press =>
    show (typist.press event).2.schemes = typist.panel.shown [(typist.press event).1.panel]
    cases hmode : event.key.role.isModeSwitch with
    | true => exact typist.press_modeSwitch_shown hmode
    | false => exact typist.press_shown hmode
  | release =>
    show (typist.release event).2.schemes = typist.panel.shown [(typist.release event).1.panel]
    obtain ⟨hpanel, hschemes⟩ := typist.release_panel event
    rw [hpanel, hschemes, Panel.shown_self]

theorem setLayer_shown (typist : Typist) (layer : Layer) :
    (typist.setLayer layer).2.schemes =
      typist.panel.shown [(typist.setLayer layer).1.panel] := by
  unfold setLayer
  by_cases hsame : layer = typist.layer
  · rw [if_pos hsame]
    exact typist.panel.shown_self.symm
  · rw [if_neg hsame]
    cases hactive : typist.capsWord.active <;>
      simp [panel, Panel.shown, Panel.flips, Panel.changesLayer, Panel.scheme, hactive,
        Ne.symm hsame]

theorem setCapsWord_panel (typist : Typist) (active : Bool) :
    (typist.setCapsWord active).1.panel = ⟨active, typist.layer⟩ := by
  rw [setCapsWord_fst]
  rfl

/-- If caps word changes from outside, the scheme that the lights should show is sent. -/
theorem setCapsWord_ledScheme (typist : Typist) (active : Bool) :
    (typist.setCapsWord active).2.schemes =
      if typist.capsWord.active != active then [(typist.setCapsWord active).1.ledScheme]
      else [] := by
  cases active with
  | true =>
    rw [Bool.bne_true]
    rfl
  | false =>
    rw [Bool.bne_false]
    rfl

theorem setCapsWord_shown (typist : Typist) (active : Bool) :
    (typist.setCapsWord active).2.schemes =
      typist.panel.shown [(typist.setCapsWord active).1.panel] := by
  have hlayer : typist.panel.layer = (Panel.mk active typist.layer).layer := rfl
  have hscheme : (typist.setCapsWord active).1.ledScheme = (Panel.mk active typist.layer).scheme :=
    congrArg Panel.scheme (typist.setCapsWord_panel active)
  rw [setCapsWord_ledScheme, hscheme, setCapsWord_panel, Panel.shown_of_layer_eq hlayer]
  rfl

end Typist

/-! ## The engine -/

namespace Engine

/-- The panels in the course of a run. -/
def panels (engine : Engine) (calls : List Call) : List Panel :=
  engine.typist.panels (engine.steps calls)

/-- What leaves the mod-tap stage has the lights sent what the handlers make due. -/
theorem settleAll_shown (typist : Typist) (outputs : List StageOutput) :
    (settleAll typist outputs).2.schemes =
      typist.panel.shown
        (typist.panels ((outputs.flatMap StageOutput.handed).map .handle)) := by
  induction outputs generalizing typist with
  | nil => rfl
  | cons output rest ih =>
    have hfirst : (settle typist output).2.schemes =
        typist.panel.shown (typist.panels (output.handed.map .handle)) := by
      cases output with
      | pass event => exact typist.handle_shown event
      | tap modTap press release =>
        show (typist.handle press).2.schemes ++
            ((typist.handle press).1.handle release).2.schemes =
          typist.panel.shown (typist.panels ([.handle press] ++ [.handle release]))
        rw [Typist.shown_panels_append]
        show _ = typist.panel.shown [(typist.handle press).1.panel] ++
          (typist.handle press).1.panel.shown [((typist.handle press).1.handle release).1.panel]
        rw [← Typist.handle_shown, ← Typist.handle_shown]
      | hold modTap first => rfl
      | lift modTap last => rfl
    have hnext : (settle typist output).1 = typist.stepAll (output.handed.map .handle) := by
      cases output <;> rfl
    rw [List.flatMap_cons, List.map_append, Typist.shown_panels_append, ← hfirst, ← hnext, ← ih]
    rfl

theorem call_shown (engine : Engine) (call : Call) :
    (engine.call call).2.schemes =
      engine.typist.panel.shown (engine.typist.panels (engine.callSteps call)) := by
  cases call with
  | event event =>
    rw [(Prod.mk.inj (engine.call_settled (.event event) rfl)).2]
    exact settleAll_shown engine.typist _
  | tick now =>
    rw [(Prod.mk.inj (engine.call_settled (.tick now) rfl)).2]
    exact settleAll_shown engine.typist _
  | layer layer => exact engine.typist.setLayer_shown layer
  | capsWord active => exact engine.typist.setCapsWord_shown active

/-- A run has the lights sent what its writes make due. -/
theorem callAll_schemes (engine : Engine) (calls : List Call) :
    (engine.callAll calls).2.schemes = engine.typist.panel.shown (engine.panels calls) := by
  unfold panels
  induction calls generalizing engine with
  | nil => rfl
  | cons call rest ih =>
    rw [steps, Typist.shown_panels_append, ← call_shown, ← call_stepAll, ← ih]
    rfl

/-- **The lights show the truth.** Lights that are attached to an engine in any state are
sent one scheme at once. During a run they are then sent one scheme for each flip of caps
word and one for each change of the layer while caps word is off, in order and none
besides, and the last that they were sent is the one that they should show. -/
theorem callAll_shown (engine : Engine) (calls : List Call) :
    let run := engine.callAll calls
    let first := engine.typist.panel
    engine.onAttach = [engine.ledScheme] ∧
    run.2.schemes = first.shown (engine.panels calls) ∧
    run.2.schemes.length =
      first.count Panel.flips (engine.panels calls) +
        first.count Panel.changesLayer (engine.panels calls) ∧
    (engine.onAttach ++ run.2.schemes).getLast? = some run.1.ledScheme := by
  intro run first
  have hshown : run.2.schemes = first.shown (engine.panels calls) := engine.callAll_schemes calls
  refine ⟨rfl, hshown, ?_, ?_⟩
  · rw [hshown, Panel.length_shown]
  · rw [hshown]
    show (first.scheme :: first.shown (engine.panels calls)).getLast? = _
    rw [Panel.getLast?_shown, panels, Typist.getLastD_panels, ← callAll_stepAll]
    rfl

end Engine

end Keymap
