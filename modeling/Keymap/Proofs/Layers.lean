import Mathlib
import Keymap.Proofs.Trace
import Keymap.Proofs.Typist.Unseen

/-!
# Layers do not type

The layer is told from outside and is kept for the lights. Reports of layers can be put
into a run or left out of it, and the host does not notice.

- `Call.unlayered`: the calls that report no layer.
- `Engine.onLayer`: the engine on another layer. `Engine.call_onLayer`: it answers the host
  alike and stays the same but for the layer.
- `Engine.typed`: what the host is sent for each call that reports no layer, and what can
  then be asked about the typing.
- `Engine.typed_of_unlayered`: **reports of layers leave all of that unchanged**.
-/

namespace Keymap

namespace Call

/-- Whether a call reports a layer. -/
def isLayer : Call → Bool
  | layer _ => true
  | event _ | tick _ | capsWord _ => false

/-- The calls that report no layer. -/
def unlayered (calls : List Call) : List Call :=
  calls.filter fun call => !call.isLayer

end Call

namespace Engine

/-- The engine on another layer. -/
def onLayer (engine : Engine) (layer : Layer) : Engine :=
  { engine with typist := { engine.typist with layer := layer } }

/-- What is typed for what leaves the mod-tap stage, on another layer. -/
theorem settleAll_onLayer (typist : Typist) (layer : Layer) (outputs : List StageOutput) :
    (settleAll { typist with layer := layer } outputs).1 =
        { (settleAll typist outputs).1 with layer := layer } ∧
      (settleAll { typist with layer := layer } outputs).2.outputs =
        (settleAll typist outputs).2.outputs := by
  have hmoved (typist : Typist) :
      typist.moved 0 (fun _ => layer) = { typist with layer := layer } := by
    unfold Typist.moved
    rw [HoldTimers.delay_zero]
  have houtputs : outputs.map (StageOutput.delay 0) = outputs := by
    rw [funext StageOutput.delay_zero]
    exact List.map_id outputs
  have hsettled := settleAll_moved 0 (fun _ => layer) typist outputs
  rwa [hmoved, hmoved, houtputs] at hsettled

/-- **An engine on another layer answers the host alike**, and stays the same but for the
layer. -/
theorem call_onLayer (engine : Engine) (layer : Layer) {call : Call}
    (h : call.isLayer = false) :
    ((engine.onLayer layer).call call).1 = (engine.call call).1.onLayer layer ∧
      ((engine.onLayer layer).call call).2.outputs = (engine.call call).2.outputs := by
  obtain htime | ⟨other, rfl⟩ | ⟨active, rfl⟩ := call.isSome_time?_or
  · rw [call_eq _ htime, call_eq _ htime]
    obtain ⟨hnext, houtputs⟩ := settleAll_onLayer engine.typist layer
      (engine.modTaps.takeAll (engine.chords.signal call).2).2
    exact ⟨congrArg (Engine.mk _ _) hnext, houtputs⟩
  · cases h
  · cases active <;> exact ⟨rfl, rfl⟩

/-- A report of a layer sends nothing to the host and changes the layer alone. -/
theorem call_layer (engine : Engine) (layer : Layer) :
    (engine.call (.layer layer)).1 = engine.onLayer layer ∧
      (engine.call (.layer layer)).2.outputs = [] := by
  refine ⟨?_, engine.typist.setLayer_outputs layer⟩
  show { engine with typist := (engine.typist.setLayer layer).1 } = engine.onLayer layer
  rw [Typist.setLayer_fst]
  rfl

/-- What the host is sent for each call that reports no layer, and what can be asked about
the typing after it. -/
def typed (engine : Engine) (calls : List Call) : List (List Output × TypingView) :=
  ((calls.zip (engine.trace calls)).filter fun entry => !entry.1.isLayer).map
    fun entry => (entry.2.1.outputs, entry.2.2.toTypingView)

theorem typed_cons (engine : Engine) (call : Call) (rest : List Call) :
    engine.typed (call :: rest) =
      (if call.isLayer then []
        else [((engine.call call).2.outputs, (engine.call call).1.typing)]) ++
      (engine.call call).1.typed rest := by
  unfold typed
  rw [trace, List.zip_cons_cons, List.filter_cons]
  show List.map _ (if (!call.isLayer) = true then _ else _) = _
  cases call.isLayer <;> rfl

/-- The reports of layers in a run, and the layer at its start, do not show. -/
theorem typed_onLayer (engine : Engine) (layer : Layer) (calls : List Call) :
    (engine.onLayer layer).typed calls = engine.typed (Call.unlayered calls) := by
  induction calls generalizing engine layer with
  | nil => rfl
  | cons call rest ih =>
    unfold Call.unlayered at ih ⊢
    rw [typed_cons, List.filter_cons]
    cases hlayer : call.isLayer with
    | true =>
      cases call with
      | layer next =>
        -- the layer that is reported takes the place of the other
        rw [((engine.onLayer layer).call_layer next).1]
        exact ih engine next
      | _ => cases hlayer
    | false =>
      obtain ⟨hnext, houtputs⟩ := engine.call_onLayer layer hlayer
      rw [hnext, houtputs, ih]
      simp only [Bool.not_false, if_true, typed_cons, hlayer]
      rfl

/-- **Reports of layers leave what is typed unchanged.** In two runs that differ in such
reports alone, every other call has the host sent the same, and finds the same memory, caps
word, sentence state, place in the word and modifiers of mod-taps after it. A report itself,
wherever it comes, sends nothing to the host and leaves all of these as they are. -/
theorem typed_of_unlayered (settings : EngineSettings) {calls other : List Call}
    (same : Call.unlayered calls = Call.unlayered other) :
    (new settings).typed calls = (new settings).typed other ∧
    ∀ before layer,
      let engine := ((new settings).callAll before).1
      (engine.call (.layer layer)).2.outputs = [] ∧
        (engine.call (.layer layer)).1.typing = engine.typing := by
  constructor
  · have htyped := (new settings).typed_onLayer (new settings).typist.layer calls
    have htyped' := (new settings).typed_onLayer (new settings).typist.layer other
    rw [same, ← htyped'] at htyped
    exact htyped
  · intro before layer engine
    obtain ⟨hnext, houtputs⟩ := engine.call_layer layer
    rw [hnext]
    exact ⟨houtputs, rfl⟩

/-- Layers change between the press of `homeH` and the end of its term, and while it is a
shift. The host is told of the shift and of the letter all the same. -/
theorem typed_of_layers :
    let calls : List Call :=
      [.event (.press .homeH ∅ 0), .layer .nav, .tick 200, .layer .base,
        .event (.press .e ∅ 210), .event (.release .e ∅ 220)]
    let other : List Call :=
      [.layer .game, .event (.press .homeH ∅ 0), .tick 200, .event (.press .e ∅ 210),
        .layer .sym, .event (.release .e ∅ 220), .layer .sym]
    Call.unlayered calls = Call.unlayered other ∧
      (new {}).typed calls = (new {}).typed other ∧
      ((new {}).typed calls).map Prod.fst =
        [[], [.forward .leftShift .press ∅],
          [.forward .e .press ∅], [.forward .e .release ∅]] :=
  ⟨rfl, (@typed_of_unlayered {}
    [.event (.press .homeH ∅ 0), .layer .nav, .tick 200, .layer .base,
      .event (.press .e ∅ 210), .event (.release .e ∅ 220)]
    [.layer .game, .event (.press .homeH ∅ 0), .tick 200, .event (.press .e ∅ 210),
      .layer .sym, .event (.release .e ∅ 220), .layer .sym] rfl).1, by cbv⟩

end Engine

end Keymap
