import Mathlib
import Keymap.Proofs.Typist.Steps
import Keymap.Proofs.Typist.Trackers

/-!
# What keys the host is sent

Any key may come in: from outside, as the output of a chord, or from the buffer of a
mod-tap. Those that exist only inside the keymap stay there, and the shift that sentence
case and caps word add goes to plain letters alone.

- `Output.Sendable`: an output that names no synthetic key and shifts only a letter.
- `Typist.handle_sendable`: **every handler filters what it sends**.
- `Engine.callAll_sendable`: **the host is sent nothing else**.
-/

namespace Keymap

/-- The host knows the key of an output, and a transition comes with no shift of its own
unless it is the press of a letter. -/
def Output.Sendable : Output → Prop
  | .forward key action extra =>
    key.isSynthetic = false ∧
      (extra = ∅ ∨ extra = .single .leftShift ∧ action = .press ∧ key.isLetter = true)
  | .tap key _ => key.isSynthetic = false
  | .text _ _ => True

/-! ## Keys -/

theorem Key.not_isSynthetic_of_isLetter {key : Key} (h : key.isLetter = true) :
    key.isSynthetic = false := by
  cases key <;> first | rfl | cases h

/-- Of the keys that begin with a letter the host knows the letters. -/
theorem Key.isLetter_of_isLetterClass {key : Key} (hclass : key.isLetterClass = true)
    (h : key.isSynthetic = false) : key.isLetter = true := by
  unfold isSynthetic at h
  split at h
  case h_7 => simpa [hclass] using (Bool.or_eq_false_iff.mp h).1
  all_goals cases h

theorem Modifier.not_isSynthetic_key (m : Modifier) : m.key.isSynthetic = false := by
  cases m <;> rfl

/-! ## The typist -/

theorem sendable_typeFragment (text : String) (backspaces : Nat) (case : FragmentCase) :
    ∀ output ∈ typeFragment text backspaces case, output.Sendable := by
  intro output hmem
  rcases List.mem_append.mp hmem with hmem | hmem
  · rw [List.eq_of_mem_replicate hmem]
    rfl
  · rw [List.mem_singleton.mp hmem]
    trivial

theorem WordPosition.sendable_quote (position : WordPosition) :
    ∀ output ∈ position.quote, output.Sendable := by
  intro output hmem
  unfold quote at hmem
  split at hmem
  · rw [List.mem_singleton.mp hmem]
    rfl
  · rcases List.mem_cons.mp hmem with rfl | hmem
    · trivial
    · rw [List.mem_singleton.mp hmem]
      rfl

namespace Typist

variable {event : KeyEvent}

/-- **The handlers of presses filter what they send**, if a shift is asked for keys that
begin with a letter only. -/
theorem typeKey_sendable (typist : Typist) {cue : Cue}
    (hcue : (cue.weakShift || cue.case.capitalise) = true → event.key.isLetterClass = true) :
    ∀ output ∈ (typist.typeKey event cue).2, output.Sendable := by
  have hempty : ∀ output ∈ ([] : List Output), output.Sendable := by simp
  unfold typeKey
  cases hrole : event.key.role with
  | quotePair => exact typist.position.sendable_quote
  | magic side =>
    show ∀ output ∈ (typist.magic side cue.case).2, output.Sendable
    unfold magic
    split
    · exact hempty
    · exact sendable_typeFragment _ _ _
  | alternate table =>
    show ∀ output ∈ (typist.alternate table cue.case).2, output.Sendable
    unfold alternate
    split
    · exact sendable_typeFragment _ _ _
    · exact hempty
  | word entry => exact sendable_typeFragment _ _ _
  | vowelSwitch reversed =>
    intro output hmem
    rw [List.mem_singleton.mp hmem]
    exact Key.not_isSynthetic_of_isLetter (VowelSwitch.isLetter_choose reversed _ _)
  | plain =>
    have hknown := Key.not_isSynthetic_of_plain hrole
    intro output hmem
    rw [List.mem_singleton.mp hmem]
    refine ⟨hknown, ?_⟩
    by_cases hshift : (cue.weakShift || cue.case.capitalise) = true
    · rw [if_pos hshift]
      exact .inr ⟨rfl, rfl, Key.isLetter_of_isLetterClass (hcue hshift) hknown⟩
    · rw [if_neg hshift]
      exact .inl rfl
  | dual _ | inert | capsWordToggle | sentenceCaseOn | sentenceCaseToggle => exact hempty

theorem press_sendable (typist : Typist) :
    ∀ output ∈ (typist.press event).2.outputs, output.Sendable := by
  cases hmode : event.key.role.isModeSwitch with
  | true =>
    rw [(typist.press_modeSwitch hmode).1]
    simp
  | false =>
    rw [typist.press_eq hmode]
    exact typeKey_sendable _ isLetterClass_of_cue

/-- A key that comes up is sent on if the host knows it; a dual key types letters. -/
theorem release_sendable (typist : Typist) :
    ∀ output ∈ (typist.release event).2.outputs, output.Sendable := by
  unfold release
  cases hrole : event.key.role with
  | dual letters =>
    show ∀ output ∈ (typist.resolveDual letters event).2, output.Sendable
    obtain ⟨-, rfl⟩ := Key.eq_of_dual hrole
    obtain ⟨shown, capital, -, -, ⟨-, hresolve⟩ | ⟨-, hresolve⟩⟩ :=
      typist.resolveDual_cases ⟨.q, .u⟩ event
    · rw [hresolve]
      intro output hmem
      rcases List.mem_cons.mp hmem with rfl | hmem
      · rfl
      · rw [List.mem_singleton.mp hmem]
        rfl
    · rw [hresolve]
      intro output hmem
      rw [List.mem_singleton.mp hmem]
      rfl
  | plain =>
    intro output hmem
    rw [List.mem_singleton.mp hmem]
    exact ⟨Key.not_isSynthetic_of_plain hrole, .inl rfl⟩
  | _ => simp

/-- **Every handler filters what it sends.** -/
theorem handle_sendable (typist : Typist) (event : KeyEvent) :
    ∀ output ∈ (typist.handle event).2.outputs, output.Sendable := by
  unfold handle
  cases event.action with
  | press => exact typist.press_sendable
  | release => exact typist.release_sendable

end Typist

/-! ## The engine -/

/-- **Synthetic keys never reach the host, and nothing but a letter is shifted.** Whatever
an engine is fed, in any state and under any settings, each transition and each tap that
it sends is of a key that the host knows; what a transition adds is nothing, or the left
shift key on the press of one of the letters `A` to `Z`. -/
theorem Engine.callAll_sendable (engine : Engine) (calls : List Call) :
    ∀ output ∈ (engine.callAll calls).2.outputs, output.Sendable := by
  have hany : Typist.Along (fun _ _ => True) engine.typist (engine.steps calls) := by
    intro front event back _
    trivial
  refine callAll_sends (fun typist event _ => typist.handle_sendable event) ?_ engine hany
  intro m action
  exact ⟨m.not_isSynthetic_key, .inl rfl⟩

/-- A letter under caps word: its press is sent with shift, its release without. -/
theorem Engine.callAll_sendable_capital :
    let engine := ((new {}).setCapsWord true).1
    let calls : List Call := [.event (.press .a ∅ 0), .event (.release .a ∅ 10)]
    (engine.callAll calls).2.outputs =
        [.forward .a .press (.single .leftShift), .forward .a .release ∅] ∧
      Output.Sendable (.forward .a .press (.single .leftShift)) ∧
      Output.Sendable (.forward .a .release ∅) := by
  intro engine calls
  have houtputs : (engine.callAll calls).2.outputs =
      [.forward .a .press (.single .leftShift), .forward .a .release ∅] := by cbv
  refine ⟨houtputs, callAll_sendable engine calls _ ?_, callAll_sendable engine calls _ ?_⟩
  · rw [houtputs]
    exact List.mem_cons_self
  · rw [houtputs]
    exact List.mem_cons_of_mem _ List.mem_cons_self

end Keymap
