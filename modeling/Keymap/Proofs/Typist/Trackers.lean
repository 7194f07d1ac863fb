import Keymap.Proofs.Typist.Forward

/-!
# What the trackers say

Before a press goes to its handler it is shown to the trackers. They move caps
word and the sentence tracker and leave everything else alone, and what they say
of the press is of little variety: a shift is asked for keys that begin with a
letter, and for no others.

- `Typist.track_eq`: the frame: what showing a press to the trackers can change.
- `Typist.track_shifted`, `Typist.track_capitalise`, `Typist.isLetterClass_of_cue`:
  what the cue says.
- `Typist.CapsWordStays`: what is known of a press that leaves caps word on.
- `Typist.press_eq`: a press, once the mode switches have been dealt with.
- `Typist.press_plain`, `Typist.press_dual`, `Typist.resolveDual_cases`: keys that go
  to the host, and keys that type when they come up.
-/

namespace Keymap

/-! ## Roles and classes -/

/-- Whether a key of this role switches a mode and is consumed by that. -/
def Role.isModeSwitch : Role → Bool
  | .capsWordToggle | .sentenceCaseOn | .sentenceCaseToggle => true
  | _ => false

theorem Key.eq_of_vowelSwitch {key : Key} {reversed : Bool} (h : key.role = .vowelSwitch reversed) :
    key = if reversed then .hvSwitchReverse else .hvSwitch := by
  cases key <;> cases h <;> rfl

theorem Key.eq_of_dual {key : Key} {letters : DualKey} (h : key.role = .dual letters) :
    key = .qu ∧ letters = ⟨.q, .u⟩ := by
  cases key <;> cases h
  exact ⟨rfl, rfl⟩

theorem Key.isModifier_of_modifier? {key : Key} {m : Modifier} (h : key.modifier? = some m) :
    key.isModifier = true := by
  cases key <;> cases h <;> rfl

theorem Key.not_isModifier_of_isLetterClass {key : Key} (h : key.isLetterClass = true) :
    key.isModifier = false := by
  cases key <;> first | rfl | cases h

theorem Key.isLetterClass_of_isLetter {key : Key} (h : key.isLetter = true) :
    key.isLetterClass = true := by
  unfold isLetterClass
  rw [h]
  rfl

/-- An entry of a table has what all its entries have. -/
theorem KeyTable.of_find? {α : Type} {table : KeyTable α} {p : α → Prop}
    (h : ∀ entry ∈ table.entries, p entry.2) {key : Key} {value : α}
    (hfind : table.find? key = some value) : p value := by
  obtain ⟨front, back, hentries, -⟩ := List.lookup_eq_some_iff.mp hfind
  exact h (key, value) (by rw [hentries]; simp)

theorem VowelSwitch.isLetter_choose (reversed : Bool) (remembered : Key) (mods : ModMask) :
    (choose reversed remembered mods).isLetter = true := by
  unfold choose
  repeat' split
  all_goals rfl

namespace ModMask

@[simp] theorem anyShift_union (x y : ModMask) :
    (x ∪ y).anyShift = (x.anyShift || y.anyShift) := by
  show ((x.leftShift || y.leftShift) || (x.rightShift || y.rightShift)) = _
  unfold anyShift
  cases x.leftShift <;> cases x.rightShift <;> cases y.leftShift <;> rfl

/-- The left shift key makes no shortcut. -/
@[simp] theorem hasNonShift_union_leftShift (x : ModMask) :
    (x ∪ .single .leftShift).hasNonShift = x.hasNonShift := by
  show (x.leftCtrl || false || (x.leftAlt || false) || (x.leftGui || false) ||
    (x.rightCtrl || false) || (x.rightAlt || false) || (x.rightGui || false)) = _
  simp only [Bool.or_false]
  rfl

theorem anyShift_union_leftShift (x : ModMask) : (x ∪ .single .leftShift).anyShift = true := by
  rw [anyShift_union]
  exact Bool.or_true _

/-- With no modifier but shift, nothing but shift and AltGr is held. -/
theorem shiftOrAltGrOnly_of_not_hasNonShift {mods : ModMask} (h : mods.hasNonShift = false) :
    mods.shiftOrAltGrOnly = true := by
  simp only [hasNonShift, Bool.or_eq_false_iff] at h
  simp [shiftOrAltGrOnly, h]

end ModMask

/-! ## The sentence tracker -/

/-- Only a key that begins with a letter is to be a capital. -/
theorem SentenceCase.isLetterClass_of_onEvent {tracker : SentenceCase} {event : KeyEvent}
    (h : (tracker.onEvent event).2 = true) : event.key.isLetterClass = true := by
  unfold onEvent at h
  split at h
  · cases hclass : classify event with
    | letter =>
      unfold classify at hclass
      split at hclass
      · cases hclass
      · split at hclass
        · cases hclass
        · split at hclass
          · assumption
          · -- none of the other keys is classed as a letter
            split at hclass <;> first | cases hclass | (split at hclass <;> cases hclass)
    | _ => simp [hclass] at h
  · cases h

namespace Typist

variable {typist : Typist} {event : KeyEvent}

/-! ## The frame -/

/-- **The trackers move caps word and the sentence tracker** and nothing else. -/
theorem track_eq (typist : Typist) (event : KeyEvent) :
    (typist.track event).1 =
      { typist with
        capsWord := (typist.track event).1.capsWord
        sentence := (typist.sentence.onEvent event).1 } := by
  simp only [track, watchShifts, gate, toggleCapsWord]
  split <;> split <;> rfl

@[simp] theorem track_sentence (typist : Typist) (event : KeyEvent) :
    (typist.track event).1.sentence = (typist.sentence.onEvent event).1 := by
  rw [track_eq]

@[simp] theorem track_memory (typist : Typist) (event : KeyEvent) :
    (typist.track event).1.memory = typist.memory := by
  rw [track_eq]

@[simp] theorem track_position (typist : Typist) (event : KeyEvent) :
    (typist.track event).1.position = typist.position := by
  rw [track_eq]

/-! ## The cue -/

/-- Typed text is shifted while caps word is on. -/
theorem track_shifted (typist : Typist) (event : KeyEvent) :
    (typist.track event).2.1.case.shifted = (typist.track event).1.capsWord.active := rfl

/-- The first letter is a capital if sentence case asks for it. -/
theorem track_capitalise (typist : Typist) (event : KeyEvent) :
    (typist.track event).2.1.case.capitalise = (typist.sentence.onEvent event).2 := by
  simp only [track, watchShifts, gate, toggleCapsWord]
  split <;> split <;> rfl

/-- What is known of a press that leaves caps word on, unless it is of a modifier key. -/
structure CapsWordStays (event : KeyEvent) (weakShift : Bool) : Prop where
  /-- It is no shortcut. -/
  mods : event.mods.hasNonShift = false
  key : CapsWord.keepsAlive event.key = true
  /-- It is shifted if it begins with a letter. -/
  shift : weakShift = event.key.isLetterClass

/-- **All that the gate can do with a press.** -/
theorem gate_cases (typist : Typist) (event : KeyEvent) :
    (typist.capsWord.active = false ∧ typist.gate event = (typist, false, [])) ∨
    (event.key.isModifier = true ∧ typist.gate event = (typist, false, [])) ∨
    (typist.gate event =
      ({ typist with capsWord := ⟨false⟩ }, false, [typist.layer.scheme])) ∨
    (event.mods.hasNonShift = false ∧ CapsWord.keepsAlive event.key = true ∧
      typist.gate event = (typist, event.key.isLetterClass, [])) := by
  unfold gate CapsWord.onPress
  cases hactive : typist.capsWord.active with
  | false => exact .inl ⟨rfl, rfl⟩
  | true =>
    cases hmod : event.key.isModifier with
    | true => exact .inr (.inl ⟨rfl, rfl⟩)
    | false =>
      cases hends : event.mods.hasNonShift || !CapsWord.keepsAlive event.key with
      | true => exact .inr (.inr (.inl (by simp)))
      | false =>
        obtain ⟨hmods, hkey⟩ := (Bool.or_eq_false_iff).mp hends
        exact .inr (.inr (.inr ⟨hmods, by simpa using hkey, by simp⟩))

/-- The gate asks for a shift on keys that begin with a letter, and on no others. -/
theorem isLetterClass_of_gate {typist : Typist} (h : (typist.gate event).2.1 = true) :
    event.key.isLetterClass = true := by
  rcases typist.gate_cases event with ⟨-, hgate⟩ | ⟨-, hgate⟩ | hgate | ⟨-, -, hgate⟩
  · simp [hgate] at h
  · simp [hgate] at h
  · simp [hgate] at h
  · rwa [hgate] at h

theorem capsWordStays_of_gate {typist : Typist} (hkey : event.key.isModifier = false)
    (h : (typist.gate event).1.capsWord.active = true) :
    CapsWordStays event (typist.gate event).2.1 := by
  rcases typist.gate_cases event with ⟨hoff, hgate⟩ | ⟨hmod, -⟩ | hgate | ⟨hmods, halive, hgate⟩
  · rw [hgate] at h
    exact absurd (hoff.symm.trans h) Bool.false_ne_true
  · exact absurd (hkey.symm.trans hmod) Bool.false_ne_true
  · rw [hgate] at h
    cases h
  · rw [hgate]
    exact ⟨hmods, halive, rfl⟩

/-- **A press that leaves caps word on** is shifted if it begins with a letter. -/
theorem capsWordStays_of_track (hkey : event.key.isModifier = false)
    (h : (typist.track event).1.capsWord.active = true) :
    CapsWordStays event (typist.track event).2.1.weakShift :=
  capsWordStays_of_gate hkey h

/-- **A shift is asked for keys that begin with a letter**, and for no others. -/
theorem isLetterClass_of_cue
    (h : ((typist.track event).2.1.weakShift ||
      (typist.track event).2.1.case.capitalise) = true) :
    event.key.isLetterClass = true := by
  rcases (Bool.or_eq_true _ _).mp h with hweak | hcapital
  · exact @isLetterClass_of_gate event (typist.watchShifts event).1 hweak
  · rw [track_capitalise] at hcapital
    exact SentenceCase.isLetterClass_of_onEvent hcapital

/-! ## Presses -/

/-- **A press goes to its handler** with what the trackers say, unless its key switches
a mode. -/
theorem press_eq (typist : Typist) (h : event.key.role.isModeSwitch = false) :
    typist.press event =
      (((typist.track event).1.typeKey event (typist.track event).2.1).1,
        { outputs := ((typist.track event).1.typeKey event (typist.track event).2.1).2
          schemes := (typist.track event).2.2 }) := by
  unfold press
  cases hrole : event.key.role with
  | capsWordToggle | sentenceCaseOn | sentenceCaseToggle =>
    rw [hrole] at h
    cases h
  | _ => rfl

/-- A key that switches a mode types nothing and leaves what was typed alone. -/
theorem press_modeSwitch (typist : Typist) (h : event.key.role.isModeSwitch = true) :
    (typist.press event).2.outputs = [] ∧
      (typist.press event).1.memory = typist.memory ∧
      (typist.press event).1.position = typist.position ∧
      (typist.press event).1.timers = typist.timers := by
  unfold press
  cases hrole : event.key.role with
  | capsWordToggle | sentenceCaseOn | sentenceCaseToggle => exact ⟨rfl, rfl, rfl, rfl⟩
  | _ =>
    rw [hrole] at h
    cases h

/-- **No handler touches caps word or the layer.** -/
theorem typeKey_eq (typist : Typist) (event : KeyEvent) (cue : Cue) :
    (typist.typeKey event cue).1 =
      { (typist.typeKey event cue).1 with
        capsWord := typist.capsWord
        layer := typist.layer } := by
  have hback (case : FragmentCase) :
      typist.handBack case =
        { typist.handBack case with capsWord := typist.capsWord, layer := typist.layer } := by
    unfold handBack
    split <;> rfl
  cases hrole : event.key.role with
  | magic side =>
    simp only [typeKey, hrole, magic]
    split
    · exact hback _
    · split <;> rfl
  | alternate table =>
    simp only [typeKey, hrole, alternate]
    split
    · rfl
    · exact hback _
  | _ => simp only [typeKey, hrole] <;> rfl

@[simp] theorem typeKey_capsWord (typist : Typist) (event : KeyEvent) (cue : Cue) :
    (typist.typeKey event cue).1.capsWord = typist.capsWord := by
  rw [typeKey_eq]

/-- A key that goes to the host, and what it is sent on with. -/
theorem press_plain (typist : Typist) (h : event.key.role = .plain) :
    ∃ extra : ModMask,
      (extra = ∅ ∨ extra = .single .leftShift ∧ event.key.isLetterClass = true) ∧
      (typist.press event).2.outputs = [.forward event.key .press extra] ∧
      (typist.press event).1.sentence = (typist.sentence.onEvent event).1 ∧
      (typist.press event).1.position = typist.position.observe event := by
  refine ⟨if (typist.track event).2.1.weakShift || (typist.track event).2.1.case.capitalise
    then .single .leftShift else ∅, ?_, ?_⟩
  · split
    · next hcue => exact .inr ⟨rfl, isLetterClass_of_cue hcue⟩
    · exact .inl rfl
  · rw [typist.press_eq (congrArg Role.isModeSwitch h)]
    simp only [typeKey, h, forward, track_sentence, track_position, and_self]

theorem handle_press (typist : Typist) (h : event.action = .press) :
    typist.handle event = typist.press event := by
  rw [handle, h]

/-- A key that went to the host is let go there. -/
theorem handle_release_plain (typist : Typist) (hup : event.action = .release)
    (h : event.key.role = .plain) :
    typist.handle event = (typist, { outputs := [.forward event.key .release ∅] }) := by
  simp only [handle, hup, release, h]

/-! ## Dual keys -/

/-- A dual key types nothing when it goes down; its press is recorded. -/
theorem press_dual (typist : Typist) {dual : DualKey} (h : event.key.role = .dual dual) :
    (typist.press event).2.outputs = [] ∧
      (typist.press event).1.memory = typist.memory ∧
      (typist.press event).1.position = typist.position.observe event ∧
      (typist.press event).1.timers = typist.timers.press event.key
        ⟨event.time, event.mods, (typist.sentence.onEvent event).2⟩ := by
  rw [typist.press_eq (congrArg Role.isModeSwitch h)]
  simp only [typeKey, h, track_memory, track_position, track_timers, track_capitalise, and_self]

/-- A dual key types when it comes up. -/
theorem handle_release_dual (typist : Typist) (hup : event.action = .release) {dual : DualKey}
    (h : event.key.role = .dual dual) :
    typist.handle event =
      ((typist.resolveDual dual event).1, { outputs := (typist.resolveDual dual event).2 }) := by
  simp only [handle, hup, release, h]

/-- **What a dual key types when it comes up**: both letters after a tap and the first
after a hold, with what was held at its press but for the shift keys. Each letter is
shifted while caps word is on. -/
theorem resolveDual_cases (typist : Typist) (dual : DualKey) (event : KeyEvent) :
    ∃ (shown : ModMask) (capital : Bool),
      shown = ((typist.timers.get? event.key).map PressRecord.mods).getD event.mods \ .shifts ∧
      (typist.capsWord.active = true → capital = true) ∧
      let withShift (upper : Bool) : ModMask := if upper then shown ∪ .single .leftShift else shown
      let next := { typist with timers := typist.timers.forget event.key }
      ((typist.timers.release event.key event.time).2.1 = .tap ∧
        typist.resolveDual dual event = (next.remember dual.second,
          [.tap dual.first (withShift capital),
            .tap dual.second (withShift typist.capsWord.active)])) ∨
      ((typist.timers.release event.key event.time).2.1 = .hold ∧
        typist.resolveDual dual event =
          (next.remember dual.first, [.tap dual.first (withShift capital)])) := by
  refine ⟨_, typist.capsWord.active ||
    ((typist.timers.get? event.key).map PressRecord.wantsCapital).getD false, rfl, ?_, ?_⟩
  · intro hactive
    rw [hactive, Bool.true_or]
  · unfold resolveDual
    cases hresolution : (typist.timers.release event.key event.time).2.1 with
    | tap => exact .inl ⟨rfl, by simp only [hresolution]; rfl⟩
    | hold => exact .inr ⟨rfl, by simp only [hresolution]; rfl⟩

theorem resolveDual_capsWord (typist : Typist) (dual : DualKey) (event : KeyEvent) :
    (typist.resolveDual dual event).1.capsWord = typist.capsWord := by
  obtain ⟨shown, capital, -, -, ⟨-, hresolve⟩ | ⟨-, hresolve⟩⟩ :=
    typist.resolveDual_cases dual event
  · rw [hresolve]
    rfl
  · rw [hresolve]
    rfl

end Typist

end Keymap
