import Keymap.Proofs.Run

/-!
# What is seen of a run

A caller gets a response to each call and can ask the engine what it remembers. What it is
told and what it can ask is all that it can tell two engines apart by.

- `TypingView`, `View`: what can be asked of an engine.
- `Engine.trace`: the response to each call of a run, and the view after it.
- `Engine.trace_of_simulation`: **engines that stay related and answer alike have the same
  trace**.
-/

namespace Keymap

/-- What can be asked of an engine about what it types. -/
structure TypingView where
  memory : Memory
  capsWord : Bool
  sentence : SentenceState
  /-- Sentence case is on. -/
  sentenceCase : Bool
  withinWord : Bool
  /-- The modifiers that held mod-taps contribute. -/
  modTapMods : ModMask
  deriving DecidableEq

/-- All that can be asked of an engine. -/
structure View extends TypingView where
  layer : Layer
  ledScheme : LedScheme
  deriving DecidableEq

namespace Engine

/-- What can be asked of an engine about what it types. -/
def typing (engine : Engine) : TypingView where
  memory := engine.typist.memory
  capsWord := engine.typist.capsWord.active
  sentence := engine.typist.sentence.state
  sentenceCase := engine.typist.sentence.enabled
  withinWord := engine.typist.position.withinWord
  modTapMods := engine.modTapMods

/-- All that can be asked of an engine. -/
def view (engine : Engine) : View where
  toTypingView := engine.typing
  layer := engine.typist.layer
  ledScheme := engine.ledScheme

/-- What is seen of a run: the response to each call, and the view after it. -/
def trace (engine : Engine) : List Call → List (Response × View)
  | [] => []
  | call :: rest =>
    ((engine.call call).2, (engine.call call).1.view) :: (engine.call call).1.trace rest

/-- **Engines that stay related and answer alike have the same trace**, if related engines
have the same view. The calls of the one may be translated for the other. -/
theorem trace_of_simulation {Related : Engine → Engine → Prop} {translate : Call → Call}
    (hview : ∀ engine other, Related engine other → other.view = engine.view)
    (hcall : ∀ engine other call, Related engine other →
      Related (engine.call call).1 (other.call (translate call)).1 ∧
        (other.call (translate call)).2 = (engine.call call).2)
    {engine other : Engine} (h : Related engine other) (calls : List Call) :
    other.trace (calls.map translate) = engine.trace calls := by
  induction calls generalizing engine other with
  | nil => rfl
  | cons call rest ih =>
    obtain ⟨hnext, hresponse⟩ := hcall engine other call h
    rw [List.map_cons, trace, trace, hresponse, hview _ _ hnext, ih hnext]

end Engine

end Keymap
