import Mathlib
import Keymap.Proofs.Editing
import Keymap.Proofs.Typist.Steps
import Keymap.Proofs.Typist.Trackers

/-!
# Caps word types no small letter

Letters reach the host on many paths: their keys are sent on, they are tapped, or
they come in a text. While caps word is on each path shifts them.

- `Output.Upper`: every letter that an output types is a capital.
- `Typist.handle_upper`: **an event that leaves caps word on types capitals**.
- `Editor.smallLetters`: the small letters in the editor.
- `Editor.smallLetters_emitAll`: such outputs add none.
- `Engine.callAll_types_capitals`: **a run that keeps caps word on types no small letter**.
-/

namespace Keymap

/-- Every letter that an output types is a capital. -/
def Output.Upper : Output → Prop
  | .forward key .press extra => key.isLetter = true → extra.leftShift = true
  | .forward _ .release _ => True
  | .tap key mods => key.isLetter = true → mods.anyShift = true
  | .text _ shifted => shifted = true

/-! ## The typist -/

/-- A fragment that is typed while caps word is on. -/
theorem upper_typeFragment {text : String} {backspaces : Nat} {case : FragmentCase}
    (h : case.shifted = true) : ∀ output ∈ typeFragment text backspaces case, output.Upper := by
  intro output hmem
  rcases List.mem_append.mp hmem with hmem | hmem
  · -- the backspace key is no letter
    rw [List.eq_of_mem_replicate hmem]
    intro hletter
    cases hletter
  · rw [List.mem_singleton.mp hmem]
    exact h

/-- The quote-pair key ends the word. -/
theorem CapsWord.not_keepsAlive_of_quotePair {key : Key} (h : key.role = .quotePair) :
    keepsAlive key = false := by
  cases key <;> first | rfl | contradiction

theorem Key.not_isLetter_of_isModifier {key : Key} (h : key.isModifier = true) :
    key.isLetter = false := by
  cases key <;> first | rfl | cases h

theorem Key.role_of_isModifier {key : Key} (h : key.isModifier = true) : key.role = .plain := by
  cases key <;> first | rfl | cases h

namespace Typist

variable {event : KeyEvent}

/-- **Every handler types capitals** for a press that leaves caps word on. -/
theorem typeKey_upper (typist : Typist) {cue : Cue} (hshifted : cue.case.shifted = true)
    (hstays : CapsWordStays event cue.weakShift) :
    ∀ output ∈ (typist.typeKey event cue).2, output.Upper := by
  have hempty : ∀ output ∈ ([] : List Output), output.Upper := by simp
  unfold typeKey
  cases hrole : event.key.role with
  | quotePair =>
    have hends := CapsWord.not_keepsAlive_of_quotePair hrole
    exact absurd (hends.symm.trans hstays.key) Bool.false_ne_true
  | magic side =>
    show ∀ output ∈ (typist.magic side cue.case).2, output.Upper
    unfold magic
    split
    · exact hempty
    · exact upper_typeFragment hshifted
  | alternate table =>
    show ∀ output ∈ (typist.alternate table cue.case).2, output.Upper
    unfold alternate
    split
    · exact upper_typeFragment hshifted
    · exact hempty
  | word entry => exact upper_typeFragment hshifted
  | vowelSwitch reversed =>
    intro output hmem
    rw [List.mem_singleton.mp hmem]
    intro _
    unfold VowelSwitch.tapMods
    rw [hstays.mods, hshifted]
    exact ModMask.anyShift_union_leftShift event.mods
  | plain =>
    intro output hmem
    rw [List.mem_singleton.mp hmem]
    intro hletter
    rw [hstays.shift, Key.isLetterClass_of_isLetter hletter]
    rfl
  | dual _ | inert | capsWordToggle | sentenceCaseOn | sentenceCaseToggle => exact hempty

/-- A press that leaves caps word on. -/
theorem press_upper (typist : Typist) (hactive : (typist.press event).1.capsWord.active = true) :
    ∀ output ∈ (typist.press event).2.outputs, output.Upper := by
  cases hmode : event.key.role.isModeSwitch with
  | true =>
    rw [(typist.press_modeSwitch hmode).1]
    simp
  | false =>
    cases hmod : event.key.isModifier with
    | true =>
      -- a modifier key is sent on whatever the gate says
      obtain ⟨extra, -, houtputs, -⟩ := typist.press_plain (Key.role_of_isModifier hmod)
      intro output hmem
      rw [houtputs] at hmem
      rw [List.mem_singleton.mp hmem]
      intro hletter
      rw [Key.not_isLetter_of_isModifier hmod] at hletter
      cases hletter
    | false =>
      rw [typist.press_eq hmode] at hactive ⊢
      rw [typeKey_capsWord] at hactive
      have hshifted := (typist.track_shifted event).trans hactive
      exact typeKey_upper _ hshifted (capsWordStays_of_track hmod hactive)

/-- A dual key comes up while caps word is on: both letters are shifted, whatever was
held. -/
theorem resolveDual_upper (typist : Typist) (letters : DualKey)
    (hactive : typist.capsWord.active = true) :
    ∀ output ∈ (typist.resolveDual letters event).2, output.Upper := by
  obtain ⟨shown, capital, -, hcapital, hcases⟩ := typist.resolveDual_cases letters event
  have hshifted (key : Key) :
      (Output.tap key (if true then shown ∪ .single .leftShift else shown)).Upper :=
    fun _ => ModMask.anyShift_union_leftShift shown
  rw [hcapital hactive, hactive] at hcases
  intro output hmem
  rcases hcases with ⟨-, hresolve⟩ | ⟨-, hresolve⟩
  · rw [hresolve] at hmem
    rcases List.mem_cons.mp hmem with rfl | hmem
    · exact hshifted _
    · rw [List.mem_singleton.mp hmem]
      exact hshifted _
  · rw [hresolve] at hmem
    rw [List.mem_singleton.mp hmem]
    exact hshifted _

/-- A release while caps word is on. -/
theorem release_upper (typist : Typist)
    (hactive : (typist.release event).1.capsWord.active = true) :
    ∀ output ∈ (typist.release event).2.outputs, output.Upper := by
  unfold release at hactive ⊢
  cases hrole : event.key.role with
  | dual letters =>
    rw [hrole] at hactive
    refine typist.resolveDual_upper letters ?_
    rw [← typist.resolveDual_capsWord letters event]
    exact hactive
  | plain =>
    intro output hmem
    rw [List.mem_singleton.mp hmem]
    trivial
  | _ => simp

/-- **An event that leaves caps word on types capitals.** -/
theorem handle_upper (typist : Typist)
    (hactive : (typist.handle event).1.capsWord.active = true) :
    ∀ output ∈ (typist.handle event).2.outputs, output.Upper := by
  unfold handle at hactive ⊢
  cases haction : event.action with
  | press =>
    rw [haction] at hactive
    exact typist.press_upper hactive
  | release =>
    rw [haction] at hactive
    exact typist.release_upper hactive

end Typist

/-! ## The editor -/

/-- A key types no small letter if each letter is shifted. -/
theorem Key.not_isLower_of_char? {key : Key} {shifted : Bool} {c : Char}
    (h : key.char? shifted = some c) (hshift : key.isLetter = true → shifted = true) :
    c.isLower = false := by
  cases shifted with
  | true => cases key <;> cases h <;> rfl
  | false => cases key <;> cases h <;> first | rfl | cases hshift rfl

namespace Editor

/-- The small letters in the editor. -/
def smallLetters (editor : Editor) : List Char :=
  editor.chars.filter Char.isLower

variable {editor : Editor}

theorem smallLetters_insert (editor : Editor) {c : Char} (h : c.isLower = false) :
    (editor.insert c).smallLetters = editor.smallLetters := by
  show (editor.chars.insertIdx editor.cursor c).filter Char.isLower = _
  unfold smallLetters
  generalize editor.cursor = i
  induction editor.chars generalizing i with
  | nil => cases i <;> simp [h]
  | cons first rest ih =>
    cases i with
    | zero => simp [h]
    | succ i => rw [List.insertIdx_succ_cons, List.filter_cons, List.filter_cons, ih i]

theorem smallLetters_insertAll (editor : Editor) {text : List Char}
    (h : ∀ c ∈ text, c.isLower = false) :
    (text.foldl insert editor).smallLetters = editor.smallLetters := by
  induction text generalizing editor with
  | nil => rfl
  | cons c rest ih =>
    obtain ⟨hfirst, hrest⟩ := List.forall_mem_cons.mp h
    exact (ih _ hrest).trans (editor.smallLetters_insert hfirst)

/-- A key that goes down adds no small letter if each letter is shifted. -/
theorem smallLetters_press (editor : Editor) {key : Key} {mods : ModMask}
    (h : key.isLetter = true → mods.anyShift = true) :
    (editor.press key mods).smallLetters.Sublist editor.smallLetters := by
  have herase (i : Nat) :
      ((editor.chars.eraseIdx i).filter Char.isLower).Sublist editor.smallLetters :=
    (List.eraseIdx_sublist _ _).filter _
  unfold press
  split
  case h_1 =>
    unfold backspace
    split
    · exact List.Sublist.refl _
    · exact herase _
  case h_2 => exact herase _
  case h_11 =>
    split
    · exact List.Sublist.refl _
    · split
      · next c hglyph =>
        rw [editor.smallLetters_insert (Key.not_isLower_of_char? hglyph h)]
      · exact List.Sublist.refl _
  -- the other keys move the cursor
  all_goals exact List.Sublist.refl _

/-- **An output that types capitals adds no small letter.** -/
theorem smallLetters_emit (editor : Editor) {output : Output} (h : output.Upper) :
    (editor.emit output).smallLetters.Sublist editor.smallLetters := by
  cases output with
  | tap key mods => exact editor.smallLetters_press h
  | text chars shifted =>
    have hcapitals : ∀ c ∈ chars.toList.map (cased shifted), c.isLower = false := by
      intro c hmem
      obtain ⟨before, -, rfl⟩ := List.mem_map.mp hmem
      rw [cased, if_pos (show shifted = true from h)]
      exact Char.isLower_toUpper_eq_false before
    show (List.foldl insert editor _).smallLetters.Sublist _
    rw [editor.smallLetters_insertAll hcapitals]
  | forward key action extra =>
    show (editor.transition key action extra).smallLetters.Sublist _
    cases hmod : key.modifier? with
    | some m =>
      rw [transition_modifier hmod]
      exact List.Sublist.refl _
    | none =>
      cases action with
      | release =>
        rw [transition_release hmod]
      | press =>
        rw [transition_press hmod]
        refine editor.smallLetters_press fun hletter => ?_
        have hextra : extra.anyShift = true := by
          unfold ModMask.anyShift
          rw [h hletter, Bool.true_or]
        rw [ModMask.anyShift_union, hextra, Bool.or_true]

theorem smallLetters_emitAll (editor : Editor) {outputs : List Output}
    (h : ∀ output ∈ outputs, output.Upper) :
    (editor.emitAll outputs).smallLetters.Sublist editor.smallLetters := by
  induction outputs generalizing editor with
  | nil => exact List.Sublist.refl _
  | cons output rest ih =>
    obtain ⟨hfirst, hrest⟩ := List.forall_mem_cons.mp h
    exact (ih _ hrest).trans (editor.smallLetters_emit hfirst)

end Editor

/-! ## The pipeline -/

/-- Caps word is on once the typist has handled an event. -/
def Typist.KeepsCapsWord (typist : Typist) (event : KeyEvent) : Prop :=
  (typist.handle event).1.capsWord.active = true

namespace Engine

open Typist (Along KeepsCapsWord along_cons)

/-- All that a run sends types capitals, if every event that is handled leaves caps
word on. -/
theorem callAll_upper (engine : Engine) {calls : List Call}
    (h : Along KeepsCapsWord engine.typist (engine.steps calls)) :
    ∀ sent ∈ (engine.callAll calls).2.outputs, sent.Upper := by
  refine callAll_sends (fun typist event hkeeps => typist.handle_upper hkeeps) ?_ engine h
  intro m action
  cases action with
  | press =>
    -- the key of a modifier is no letter
    intro hletter
    cases m <;> cases hletter
  | release => trivial

/-- **Caps word types no small letter.** In every state of the engine, an event that
leaves caps word on types capitals only, on whatever path its letters go. So a run
throughout which caps word is on after every event that is handled adds no small letter
to an editor. -/
theorem callAll_types_capitals (engine : Engine) :
    (∀ event, KeepsCapsWord engine.typist event →
      ∀ sent ∈ (engine.typist.handle event).2.outputs, sent.Upper) ∧
    ∀ calls, Along KeepsCapsWord engine.typist (engine.steps calls) → ∀ editor : Editor,
      (editor.emitAll (engine.callAll calls).2.outputs).smallLetters.Sublist
        editor.smallLetters := by
  constructor
  · intro event hkeeps
    exact engine.typist.handle_upper hkeeps
  · intro calls halong editor
    have hupper : ∀ sent ∈ (engine.callAll calls).2.outputs, sent.Upper :=
      engine.callAll_upper halong
    exact editor.smallLetters_emitAll hupper

/-- A letter that is sent on and one that is tapped, both as capitals. -/
theorem callAll_types_capitals_av :
    let engine := ((new {}).setCapsWord true).1
    let calls : List Call := [.event (.press .a ∅ 0), .event (.press .hvSwitch ∅ 10)]
    KeepsCapsWord engine.typist (.press .a ∅ 0) ∧
      (∀ sent ∈ (engine.typist.handle (.press .a ∅ 0)).2.outputs, sent.Upper) ∧
      Along KeepsCapsWord engine.typist (engine.steps calls) ∧
      (Editor.emitAll {} (engine.callAll calls).2.outputs).smallLetters = [] ∧
      (Editor.emitAll {} (engine.callAll calls).2.outputs).chars = ['A', 'V'] := by
  intro engine calls
  have hsteps : engine.steps calls =
      [.handle (.press .a ∅ 0), .handle (.press .hvSwitch ∅ 10)] := by cbv
  have hkeeps : KeepsCapsWord engine.typist (.press .a ∅ 0) := rfl
  have halong : Along KeepsCapsWord engine.typist (engine.steps calls) := by
    rw [hsteps]
    refine along_cons.mpr ⟨?_, along_cons.mpr ⟨?_, Typist.along_nil⟩⟩
    · rintro event ⟨⟩
      exact hkeeps
    · rintro event ⟨⟩
      rfl
  refine ⟨hkeeps, (callAll_types_capitals engine).1 _ hkeeps, halong, ?_, by cbv⟩
  exact List.sublist_nil.mp ((callAll_types_capitals engine).2 calls halong {})

end Engine

end Keymap
