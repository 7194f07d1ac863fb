import Keymap.Proofs.Order

/-!
# The steps of the typist

During a run of the engine the typist is handed events and is told from outside of
layers and of caps word. What it remembers follows from these steps, whatever the
stages before it buffer and replay.

- `Typist.Step`, `Typist.step`, `Typist.stepAll`: one step, and steps in order.
- `Typist.stepAll_invariant`: what every step keeps holds after all steps.
- `Typist.Along`: what holds whenever an event is handed to the handlers.
- `Engine.steps`, `Engine.callAll_stepAll`: **the steps that a run leads to**;
  `Engine.events_steps`: their events.
- `Engine.callAll_sends`: what holds of all that is sent.
-/

namespace Keymap

namespace Typist

/-- What can happen to the typist. -/
inductive Step where
  /-- An event is handed to the handlers. -/
  | handle (event : KeyEvent)
  /-- The highest active layer changes. -/
  | layer (layer : Layer)
  /-- Caps word is turned on or off from outside. -/
  | capsWord (active : Bool)

namespace Step

/-- The event of a step. -/
def event? : Step → Option KeyEvent
  | .handle event => some event
  | .layer _ | .capsWord _ => none

/-- The events among some steps. -/
def events (steps : List Step) : List KeyEvent :=
  steps.filterMap event?

end Step

/-- One step. -/
def step (typist : Typist) : Step → Typist
  | .handle event => (typist.handle event).1
  | .layer layer => (typist.setLayer layer).1
  | .capsWord active => (typist.setCapsWord active).1

theorem step_layer (typist : Typist) (layer : Layer) :
    typist.step (.layer layer) = { typist with layer := layer } :=
  typist.setLayer_fst layer

theorem step_capsWord (typist : Typist) (active : Bool) :
    typist.step (.capsWord active) = { typist with capsWord := ⟨active⟩ } :=
  typist.setCapsWord_fst active

/-- Steps, in order. -/
def stepAll (typist : Typist) (steps : List Step) : Typist :=
  steps.foldl step typist

@[simp] theorem stepAll_nil (typist : Typist) : typist.stepAll [] = typist := rfl

@[simp] theorem stepAll_cons (typist : Typist) (first : Step) (rest : List Step) :
    typist.stepAll (first :: rest) = (typist.step first).stepAll rest := rfl

theorem stepAll_append (typist : Typist) (front back : List Step) :
    typist.stepAll (front ++ back) = (typist.stepAll front).stepAll back :=
  List.foldl_append

/-- **What every step keeps holds after all steps.** It may speak of the events that
were handed over before. -/
theorem stepAll_invariant {P : List KeyEvent → Typist → Prop}
    (hstep : ∀ before typist first, P before typist →
      P (before ++ first.event?.toList) (typist.step first))
    {before : List KeyEvent} {typist : Typist} (h : P before typist) (steps : List Step) :
    P (before ++ Step.events steps) (typist.stepAll steps) := by
  induction steps generalizing before typist with
  | nil => rwa [Step.events, List.filterMap_nil, List.append_nil]
  | cons first rest ih =>
    have hrest := ih (hstep before typist first h)
    rw [List.append_assoc] at hrest
    cases first <;> exact hrest

/-- Whenever an event is handed to the handlers, something holds of it and of the typist
that handles it. -/
def Along (P : Typist → KeyEvent → Prop) (typist : Typist) (steps : List Step) : Prop :=
  ∀ front event back, steps = front ++ .handle event :: back → P (typist.stepAll front) event

section

variable {P : Typist → KeyEvent → Prop} {typist : Typist}

theorem along_nil : Along P typist [] := by
  intro front event back hsplit
  simp at hsplit

theorem along_cons {first : Step} {rest : List Step} :
    Along P typist (first :: rest) ↔
      (∀ event, first = .handle event → P typist event) ∧ Along P (typist.step first) rest := by
  constructor
  · intro h
    refine ⟨fun event heq => h [] event rest (by rw [heq]; rfl), ?_⟩
    intro front event back hsplit
    exact h (first :: front) event back (by rw [hsplit, List.cons_append])
  · rintro ⟨hfirst, hrest⟩ front event back hsplit
    cases front with
    | nil => exact hfirst event (List.cons.inj hsplit).1
    | cons head front =>
      obtain ⟨rfl, htail⟩ := List.cons.inj hsplit
      exact hrest front event back htail

theorem along_append {front back : List Step} :
    Along P typist (front ++ back) ↔
      Along P typist front ∧ Along P (typist.stepAll front) back := by
  induction front generalizing typist with
  | nil => simp [along_nil]
  | cons first rest ih => rw [List.cons_append, along_cons, along_cons, ih, and_assoc, stepAll_cons]

end

end Typist

/-! ## The engine -/

namespace Engine

/-- The steps of the typist during a call. -/
def callSteps (engine : Engine) : Call → List Typist.Step
  | .event event => ((engine.settled [.event event]).flatMap StageOutput.handed).map .handle
  | .tick now => ((engine.settled [.tick now]).flatMap StageOutput.handed).map .handle
  | .layer layer => [.layer layer]
  | .capsWord active => [.capsWord active]

/-- The steps of the typist during a run. -/
def steps (engine : Engine) : List Call → List Typist.Step
  | [] => []
  | call :: rest => engine.callSteps call ++ (engine.call call).1.steps rest

/-- What is settled moves the typist by the events that it is handed. -/
theorem settleAll_stepAll (typist : Typist) (outputs : List StageOutput) :
    (settleAll typist outputs).1 =
      typist.stepAll ((outputs.flatMap StageOutput.handed).map .handle) := by
  induction outputs generalizing typist with
  | nil => rfl
  | cons output rest ih =>
    rw [List.flatMap_cons, List.map_append, Typist.stepAll_append]
    refine (ih _).trans ?_
    cases output <;> rfl

theorem call_settled (engine : Engine) (call : Call) (h : call.time?.isSome) :
    ((engine.call call).1.typist, (engine.call call).2) =
      settleAll engine.typist (engine.settled [call]) := by
  rw [engine.call_typist call h, settled_cons]
  show _ = settleAll engine.typist (_ ++ [])
  rw [List.append_nil]

theorem call_stepAll (engine : Engine) (call : Call) :
    (engine.call call).1.typist = engine.typist.stepAll (engine.callSteps call) := by
  cases call with
  | event event =>
    rw [callSteps, ← settleAll_stepAll, ← engine.call_settled (.event event) rfl]
  | tick now => rw [callSteps, ← settleAll_stepAll, ← engine.call_settled (.tick now) rfl]
  | layer layer => rfl
  | capsWord active => rfl

/-- **What the typist remembers after a run follows from its steps.** -/
theorem callAll_stepAll (engine : Engine) (calls : List Call) :
    (engine.callAll calls).1.typist = engine.typist.stepAll (engine.steps calls) := by
  induction calls generalizing engine with
  | nil => rfl
  | cons call rest ih =>
    rw [steps, Typist.stepAll_append, ← call_stepAll, ← ih]
    rfl

/-- The events of the steps are those that the typist is handed. -/
theorem events_steps (engine : Engine) (calls : List Call) :
    Typist.Step.events (engine.steps calls) =
      (engine.settled calls).flatMap StageOutput.handed := by
  have hevents (events : List KeyEvent) :
      Typist.Step.events (events.map .handle) = events := by
    induction events with
    | nil => rfl
    | cons event rest ih => exact congrArg (event :: ·) ih
  induction calls generalizing engine with
  | nil => rfl
  | cons call rest ih =>
    have hcall : Typist.Step.events (engine.callSteps call) =
        (engine.settled [call]).flatMap StageOutput.handed := by
      cases call with
      | event event => exact hevents _
      | tick now => exact hevents _
      | layer layer => rfl
      | capsWord active => rfl
    have hsplit := engine.settled_append [call] rest
    rw [List.singleton_append] at hsplit
    rw [hsplit, List.flatMap_append, ← hcall, steps]
    refine (List.filterMap_append).trans (congrArg _ ?_)
    exact ih _

/-! ### What the host is sent -/

section

variable {handled : Typist → KeyEvent → Prop} {p : Output → Prop}

/-- What holds of all that is sent for an event, and of the modifiers of mod-taps, holds
of all that is sent for what leaves the mod-tap stage. -/
theorem settleAll_sends
    (hhandle : ∀ typist event, handled typist event →
      ∀ sent ∈ (typist.handle event).2.outputs, p sent)
    (hmodifier : ∀ (m : Modifier) action, p (.forward m.key action ∅))
    (typist : Typist) {outputs : List StageOutput}
    (h : Typist.Along handled typist ((outputs.flatMap StageOutput.handed).map .handle)) :
    ∀ sent ∈ (settleAll typist outputs).2.outputs, p sent := by
  induction outputs generalizing typist with
  | nil => simp [settleAll]
  | cons output rest ih =>
    rw [List.flatMap_cons, List.map_append, Typist.along_append] at h
    obtain ⟨hfirst, hrest⟩ := h
    have hnext : (settle typist output).1 = typist.stepAll (output.handed.map .handle) := by
      cases output <;> rfl
    rw [← hnext] at hrest
    refine List.forall_mem_append.mpr ⟨?_, ih _ hrest⟩
    cases output with
    | pass event => exact hhandle typist event ((Typist.along_cons.mp hfirst).1 event rfl)
    | tap modTap press release =>
      obtain ⟨hpress, hrest⟩ := Typist.along_cons.mp hfirst
      obtain ⟨hrelease, -⟩ := Typist.along_cons.mp hrest
      exact List.forall_mem_append.mpr
        ⟨hhandle _ _ (hpress press rfl), hhandle _ _ (hrelease release rfl)⟩
    | hold modTap first =>
      intro sent hmem
      cases first with
      | false => cases hmem
      | true =>
        rw [List.mem_singleton.mp hmem]
        exact hmodifier modTap.modifier .press
    | lift modTap last =>
      intro sent hmem
      cases last with
      | false => cases hmem
      | true =>
        rw [List.mem_singleton.mp hmem]
        exact hmodifier modTap.modifier .release

/-- **What holds of all that is sent for an event holds of all that a run sends**, if it
holds of the modifiers of mod-taps too. -/
theorem callAll_sends
    (hhandle : ∀ typist event, handled typist event →
      ∀ sent ∈ (typist.handle event).2.outputs, p sent)
    (hmodifier : ∀ (m : Modifier) action, p (.forward m.key action ∅))
    (engine : Engine) {calls : List Call}
    (h : Typist.Along handled engine.typist (engine.steps calls)) :
    ∀ sent ∈ (engine.callAll calls).2.outputs, p sent := by
  induction calls generalizing engine with
  | nil => simp
  | cons call rest ih =>
    rw [steps, Typist.along_append, ← call_stepAll] at h
    obtain ⟨hcall, hrest⟩ := h
    have hnow : ∀ sent ∈ (engine.call call).2.outputs, p sent := by
      cases htime : call.time? with
      | none =>
        rw [(engine.call_untimed call htime).1]
        simp
      | some now =>
        have htyped := engine.call_settled call (by rw [htime]; rfl)
        rw [(Prod.mk.inj htyped).2]
        cases call with
        | event event => exact settleAll_sends hhandle hmodifier engine.typist hcall
        | tick now => exact settleAll_sends hhandle hmodifier engine.typist hcall
        | layer layer => cases htime
        | capsWord active => cases htime
    exact List.forall_mem_append.mpr ⟨hnow, ih _ hrest⟩

end

end Engine

end Keymap
