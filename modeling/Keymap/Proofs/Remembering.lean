import Keymap.Proofs.Typist.Steps
import Keymap.Proofs.Typist.Trackers

/-!
# What memory holds

A repeat-style trigger acts on the key that was typed before it, so memory must not hold
a trigger, nor a key that types nothing. Only keys that go to the host are asked whether
they may be remembered. All other handlers overwrite memory without asking: with letters
of their own, or with what a table names.

- `Key.Rememberable`: the keys that memory may hold.
- `Typist.typeKey_memory`, `Typist.resolveDual_memory`: **no handler leaves another key
  behind**.
- `Engine.callAll_memory`: **memory never holds a trigger**, whatever an engine is fed.
-/

namespace Keymap

/-- Memory may hold no key, the mark of a full stop that the left magic key typed, or a
key that the host knows and that is there for typing. -/
def Key.Rememberable (key : Key) : Prop :=
  key = .noKey ∨ key = .magicPeriod ∨
    key.isSynthetic = false ∧ key.isModifier = false ∧ key.isNavigation = false ∧
      key.isDeletion = false

instance (key : Key) : Decidable key.Rememberable :=
  inferInstanceAs (Decidable (_ ∨ _ ∨ _))

/-! ## What the handlers leave behind -/

theorem Key.rememberable_of_isLetter {key : Key} (h : key.isLetter = true) :
    key.Rememberable := by
  cases key <;> first | decide | cases h

/-- A key that goes to the host is remembered if memory accepts it. -/
theorem Memory.rememberable_of_accepts {key : Key} (hrole : key.role = .plain)
    (h : accepts key = true) : key.Rememberable := by
  have hknown := Key.not_isSynthetic_of_plain hrole
  unfold accepts at h
  split at h
  case h_5 =>
    simp only [Bool.not_eq_true', Bool.or_eq_false_iff] at h
    obtain ⟨⟨⟨⟨hmodifier, hnavigation⟩, hdeletion⟩, -⟩, -⟩ := h
    exact .inr (.inr ⟨hknown, hmodifier, hnavigation, hdeletion⟩)
  all_goals cases h

/-- What an expansion leaves behind: the space, or the key that its entry names. -/
theorem MagicSide.rememberable_of_expand {side : MagicSide} {key : Key} {mods : ModMask}
    {expansion : Expansion} (h : side.expand key mods = some expansion) :
    expansion.repeatKey.Rememberable := by
  have htable : ∀ entry ∈ side.table.entries, entry.2.repeatKey.Rememberable := by
    cases side <;> decide
  unfold expand at h
  split at h
  · cases h
  · exact KeyTable.of_find? (p := fun expansion => expansion.repeatKey.Rememberable) htable h

theorem rememberable_of_word {key : Key} {entry : WordMacro} (hrole : key.role = .word entry) :
    entry.repeatKey.Rememberable := by
  cases key <;> cases hrole <;> decide

namespace Typist

variable {typist : Typist}

theorem handBack_memory (typist : Typist) (case : FragmentCase) :
    (typist.handBack case).memory = typist.memory := by
  unfold handBack
  split <;> rfl

/-- **No handler of a press leaves another key behind.** -/
theorem typeKey_memory (h : typist.memory.key.Rememberable) (event : KeyEvent) (cue : Cue) :
    (typist.typeKey event cue).1.memory.key.Rememberable := by
  unfold typeKey
  cases hrole : event.key.role with
  | quotePair =>
    show Key.Rememberable .apostrophe
    decide
  | magic side =>
    show (typist.magic side cue.case).1.memory.key.Rememberable
    unfold magic
    cases hexpand : side.expand typist.memory.key typist.memory.mods with
    | none =>
      show (typist.handBack cue.case).memory.key.Rememberable
      rw [handBack_memory]
      exact h
    | some expansion =>
      have hrepeat := MagicSide.rememberable_of_expand hexpand
      -- a sentence that the expansion ends is not a matter of memory
      by_cases hends : endsSentence expansion.text
      · simpa [typeText, remember, hends] using hrepeat
      · simpa [typeText, remember, hends] using hrepeat
  | alternate table =>
    show (typist.alternate table cue.case).1.memory.key.Rememberable
    unfold alternate
    split
    · exact h
    · show (typist.handBack cue.case).memory.key.Rememberable
      rw [handBack_memory]
      exact h
  | word entry => exact rememberable_of_word hrole
  | vowelSwitch reversed =>
    exact Key.rememberable_of_isLetter (VowelSwitch.isLetter_choose reversed _ _)
  | plain =>
    show (typist.memory.observe event.key _).1.key.Rememberable
    unfold Memory.observe
    by_cases haccepts : Memory.accepts event.key = true
    · rw [if_pos haccepts]
      exact Memory.rememberable_of_accepts hrole haccepts
    · rw [if_neg haccepts]
      exact h
  | dual _ | inert | capsWordToggle | sentenceCaseOn | sentenceCaseToggle => exact h

/-- A dual key that comes up leaves one of its letters behind. -/
theorem resolveDual_memory (typist : Typist) {event : KeyEvent} {letters : DualKey}
    (hrole : event.key.role = .dual letters) :
    (typist.resolveDual letters event).1.memory.key.Rememberable := by
  obtain ⟨-, rfl⟩ := Key.eq_of_dual hrole
  obtain ⟨shown, capital, -, -, ⟨-, hresolve⟩ | ⟨-, hresolve⟩⟩ :=
    typist.resolveDual_cases ⟨.q, .u⟩ event
  · rw [hresolve]
    show Key.Rememberable .u
    decide
  · rw [hresolve]
    show Key.Rememberable .q
    decide

/-- An event leaves no other key behind. -/
theorem handle_memory (h : typist.memory.key.Rememberable) (event : KeyEvent) :
    (typist.handle event).1.memory.key.Rememberable := by
  unfold handle
  cases event.action with
  | press =>
    show (typist.press event).1.memory.key.Rememberable
    cases hmode : event.key.role.isModeSwitch with
    | true =>
      rw [(typist.press_modeSwitch hmode).2.1]
      exact h
    | false =>
      rw [typist.press_eq hmode]
      refine typeKey_memory ?_ event _
      rw [track_memory]
      exact h
  | release =>
    show (typist.release event).1.memory.key.Rememberable
    unfold release
    cases hrole : event.key.role with
    | dual letters => exact typist.resolveDual_memory hrole
    | _ => exact h

/-- Nor does any step. -/
theorem step_memory (h : typist.memory.key.Rememberable) (first : Step) :
    (typist.step first).memory.key.Rememberable := by
  cases first with
  | handle event => exact handle_memory h event
  | layer layer =>
    rw [step_layer]
    exact h
  | capsWord active =>
    rw [step_capsWord]
    exact h

end Typist

/-! ## The engine -/

/-- **Memory never holds a trigger.** Whatever a fresh engine is fed, whenever its clock
advances, and whatever it is told of layers and of caps word, the key in its memory is no
key, the mark of a full stop, or a key that is neither synthetic nor a modifier and that
neither moves the cursor nor deletes. -/
theorem Engine.callAll_memory (settings : EngineSettings) (calls : List Call) :
    ((new settings).callAll calls).1.typist.memory.key.Rememberable := by
  rw [callAll_stepAll]
  have hfresh : (new settings).typist.memory.key.Rememberable := .inl rfl
  refine @Typist.stepAll_invariant (fun _ typist => typist.memory.key.Rememberable) ?_ [] _
    hfresh _
  intro before typist first h
  exact Typist.step_memory h first

end Keymap
