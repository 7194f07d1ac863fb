import Keymap.ModTap.Basic
import Keymap.Proofs.Strokes
import Keymap.Typist

/-!
# What the typist sends on

Whatever the typist types, the transitions that it sends to the host are those
of plain keys, each once, and its timers hold a record of a dual key just while
that is down.

- `Key.isPlain`, `Stroke.isPlain`, `Key.isDual`: the roles that matter.
- `Typist.typeKey_spec`: what a handler does to transitions and timers.
- `Typist.handle_forwards`: **plain keys are sent on as they are**.
- `Typist.handle_timers`, `Typist.handle_isPressed`: **a dual key has a record while it
  is down**.
-/

namespace Keymap

open Stroke

/-! ## Roles -/

/-- Whether a key goes to the host. -/
def Key.isPlain (key : Key) : Bool :=
  match key.role with
  | .plain => true
  | _ => false

/-- Whether a stroke is of such a key. -/
def Stroke.isPlain (stroke : Stroke) : Bool :=
  stroke.key.isPlain

/-- Whether a key waits for its release in the timers of the typist. -/
def Key.isDual (key : Key) : Bool :=
  match key.role with
  | .dual _ => true
  | _ => false

theorem Modifier.isPlain_key (m : Modifier) : m.key.isPlain = true := by
  cases m <;> rfl

theorem Modifier.isDual_key (m : Modifier) : m.key.isDual = false := by
  cases m <;> rfl

theorem ModTap.isPlain_of_ofKey? {key : Key} {modTap : ModTap}
    (h : ModTap.ofKey? key = some modTap) : key.isPlain = false := by
  cases key <;> first | rfl | simp [ModTap.ofKey?] at h

theorem ModTap.isDual_of_ofKey? {key : Key} {modTap : ModTap}
    (h : ModTap.ofKey? key = some modTap) : key.isDual = false := by
  cases key <;> first | rfl | simp [ModTap.ofKey?] at h

theorem ModTap.isPlain_tap {key : Key} {modTap : ModTap} (h : ModTap.ofKey? key = some modTap) :
    modTap.tap.isPlain = true := by
  cases key <;> cases h <;> rfl

/-- No mod-tap types the key of a modifier. -/
theorem ModTap.tap_ne_modifier {key : Key} {modTap : ModTap}
    (h : ModTap.ofKey? key = some modTap) (m : Modifier) : modTap.tap ≠ m.key := by
  have hnone : modTap.tap.modifier? = none := by
    cases key <;> cases h <;> rfl
  intro heq
  rw [heq, Key.modifier?_key] at hnone
  cases hnone

/-! ## Records -/

namespace HoldTimers

theorem isPressed_press (timers : HoldTimers) (key other : Key) (record : PressRecord) :
    (timers.press key record).isPressed other =
      if key = other then true else timers.isPressed other := by
  by_cases h : key = other
  · simp [isPressed, h]
  · rw [if_neg h, isPressed, isPressed, timers.get?_press_of_ne record (Ne.symm h)]

theorem isPressed_forget (timers : HoldTimers) (key other : Key) :
    (timers.forget key).isPressed other =
      if key = other then false else timers.isPressed other := by
  by_cases h : key = other
  · simp [isPressed, h]
  · rw [if_neg h, isPressed, isPressed, timers.get?_forget_of_ne (Ne.symm h)]

/-- There are no records if no key has one. -/
theorem records_eq_nil {timers : HoldTimers} (h : ∀ key, timers.isPressed key = false) :
    timers.records = [] := by
  cases hrecords : timers.records with
  | nil => rfl
  | cons entry rest =>
    have := h entry.1
    simp [isPressed, get?, hrecords] at this

end HoldTimers

/-! ## Handlers -/

namespace Typist

@[simp] theorem filterMap_typeFragment (text : String) (backspaces : Nat) (case : FragmentCase) :
    (typeFragment text backspaces case).filterMap Output.stroke? = [] := by
  simp [typeFragment, Output.stroke?]

theorem handBack_timers (typist : Typist) (case : FragmentCase) :
    (typist.handBack case).timers = typist.timers := by
  rw [handBack]
  split <;> rfl

/-- A magic key sends nothing on and leaves the timers alone. -/
theorem magic_spec (typist : Typist) (side : MagicSide) (case : FragmentCase) :
    (typist.magic side case).2.filterMap Output.stroke? = [] ∧
      (typist.magic side case).1.timers = typist.timers := by
  rw [magic]
  split
  · exact ⟨rfl, typist.handBack_timers case⟩
  · refine ⟨filterMap_typeFragment _ _ _, ?_⟩
    simp only [typeText, remember]
    split <;> rfl

/-- So does an alternate-repeat key. -/
theorem alternate_spec (typist : Typist) (table : KeyTable String) (case : FragmentCase) :
    (typist.alternate table case).2.filterMap Output.stroke? = [] ∧
      (typist.alternate table case).1.timers = typist.timers := by
  rw [alternate]
  split
  · exact ⟨filterMap_typeFragment _ _ _, rfl⟩
  · exact ⟨rfl, typist.handBack_timers case⟩

/-- The trackers leave the timers alone. -/
theorem track_timers (typist : Typist) (event : KeyEvent) :
    (typist.track event).1.timers = typist.timers := by
  simp only [track, watchShifts, gate, toggleCapsWord]
  split <;> split <;> rfl

/-- A press sends its key on if that is plain, and starts a timer if it is dual. -/
theorem typeKey_spec (typist : Typist) (event : KeyEvent) (cue : Cue) :
    (typist.typeKey event cue).2.filterMap Output.stroke? =
        (if event.key.isPlain then [.down event.key] else []) ∧
      (typist.typeKey event cue).1.timers =
        if event.key.isDual then
          typist.timers.press event.key ⟨event.time, event.mods, cue.case.capitalise⟩
        else typist.timers := by
  rw [Key.isPlain, Key.isDual]
  cases hrole : event.key.role with
  | magic side => simpa [typeKey, hrole] using typist.magic_spec side cue.case
  | alternate table => simpa [typeKey, hrole] using typist.alternate_spec table cue.case
  | word entry => simp [typeKey, hrole, word, typeText, remember]
  | quotePair =>
    refine ⟨?_, by simp [typeKey, hrole, remember]⟩
    simp only [typeKey, hrole, WordPosition.quote]
    split <;> rfl
  | plain =>
    simp [typeKey, hrole, forward, Output.stroke?, down]
  | dual letters => simp [typeKey, hrole]
  | vowelSwitch reversed => simp [typeKey, hrole, switchVowel, remember, Output.stroke?]
  | inert | capsWordToggle | sentenceCaseOn | sentenceCaseToggle => simp [typeKey, hrole]

/-- An event of a plain key is sent on, and no other. -/
theorem handle_forwards (typist : Typist) (event : KeyEvent) :
    (typist.handle event).2.outputs.filterMap Output.stroke? =
      if event.key.isPlain then [event.stroke] else [] := by
  cases haction : event.action with
  | press =>
    rw [KeyEvent.stroke_of_press haction, handle, haction]
    have htype := fun typist cue => (typeKey_spec typist event cue).1
    rw [Key.isPlain] at htype ⊢
    cases hrole : event.key.role with
    | capsWordToggle | sentenceCaseOn | sentenceCaseToggle => simp [press, hrole]
    | _ => simpa [press, hrole] using htype _ _
  | release =>
    rw [KeyEvent.stroke_of_release haction, handle, haction, Key.isPlain]
    cases hrole : event.key.role with
    | dual letters =>
      simp only [release, hrole, resolveDual]
      split <;> rfl
    | _ => simp [release, hrole, Output.stroke?, up]

/-- **What an event does to the timers**: a dual key has a record from its press to its
release, and no other key has one. -/
theorem handle_timers (typist : Typist) (event : KeyEvent) :
    (typist.handle event).1.timers =
      if event.key.isDual then
        match event.action with
        | .press => typist.timers.press event.key
          ⟨event.time, event.mods, (typist.track event).2.1.case.capitalise⟩
        | .release => typist.timers.forget event.key
      else typist.timers := by
  cases haction : event.action with
  | press =>
    have htype := fun cue => (typeKey_spec (typist.track event).1 event cue).2
    rw [track_timers] at htype
    rw [handle, haction]
    rw [Key.isDual] at htype ⊢
    cases hrole : event.key.role with
    | capsWordToggle | sentenceCaseOn | sentenceCaseToggle =>
      simp [press, hrole, toggleCapsWord]
    | _ => simp [press, hrole, htype]
  | release =>
    rw [handle, haction, Key.isDual]
    cases hrole : event.key.role with
    | dual letters =>
      simp only [release, hrole, resolveDual, HoldTimers.release]
      split <;> rfl
    | _ => simp [release, hrole]

/-- An event of another key leaves the record of a key alone. -/
theorem handle_get?_of_ne (typist : Typist) {event : KeyEvent} {key : Key}
    (h : event.key ≠ key) :
    (typist.handle event).1.timers.get? key = typist.timers.get? key := by
  rw [typist.handle_timers]
  split
  · split
    · exact HoldTimers.get?_press_of_ne _ _ h.symm
    · exact HoldTimers.get?_forget_of_ne _ h.symm
  · rfl

/-- A dual key has a record while it is down; no other event moves records. -/
theorem handle_isPressed (typist : Typist) (event : KeyEvent) (key : Key) :
    (typist.handle event).1.timers.isPressed key =
      if event.key.isDual ∧ event.key = key then event.isPress
      else typist.timers.isPressed key := by
  rw [handle_timers]
  by_cases hdual : event.key.isDual = true
  · rw [if_pos hdual]
    cases haction : event.action with
    | press =>
      have hpress : event.isPress = true := by simp [KeyEvent.isPress, haction]
      simp only [HoldTimers.isPressed_press, hdual, hpress, true_and]
    | release =>
      have hpress : event.isPress = false := by simp [KeyEvent.isPress, haction]
      simp only [HoldTimers.isPressed_forget, hdual, hpress, true_and]
  · rw [if_neg hdual, if_neg (fun h => hdual h.1)]

end Typist

end Keymap
