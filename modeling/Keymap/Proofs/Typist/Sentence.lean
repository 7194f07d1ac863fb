import Keymap.Proofs.Typist.Steps
import Keymap.Proofs.Typist.Trackers

/-!
# The sentence tracker in a run

The trackers see a press before its handler does, so the tracker gives a capital away
before it is known whether anything is typed. What it gives away can be handed back.

- `SentenceCase.onEvent_of_letterClass`: the capital that a press of a letter gets.
- `SentenceCase.handBack_onEvent`: **a tracker that is handed the capital back is as before**.
- `SentenceCase.Coherent`: no capital is due while the tracker is off.
- `SentenceCase.Moved`, `Typist.handle_sentence`: all that an event can do to the tracker.
- `Engine.Reachable.coherent`: **every run keeps the tracker coherent**.
-/

namespace Keymap

namespace SentenceCase

variable {tracker next : SentenceCase} {event : KeyEvent}

/-- A key that begins with a letter is one, unless the press is a shortcut. -/
theorem classify_of_letterClass (hdown : event.action = .press)
    (hkey : event.key.isLetterClass = true) :
    classify event = if event.mods.shiftOrAltGrOnly then .letter else .reset := by
  have hpress : (event.isRelease || event.key.isModifier) = false := by
    rw [KeyEvent.isRelease, hdown, Key.not_isModifier_of_isLetterClass hkey]
    rfl
  unfold classify
  rw [hpress, hkey]
  cases event.mods.shiftOrAltGrOnly <;> rfl

/-- **A tracker that is handed the capital back is as before.** -/
theorem handBack_onEvent (tracker : SentenceCase) (h : classify event = .letter) :
    (if (tracker.onEvent event).2 then (tracker.onEvent event).1.prime
      else (tracker.onEvent event).1) = tracker := by
  obtain ⟨enabled, state⟩ := tracker
  unfold onEvent
  rw [h]
  cases enabled <;> cases state <;> rfl

/-! ## While the tracker is off -/

/-- No capital is due while the tracker is off. -/
def Coherent (tracker : SentenceCase) : Prop :=
  tracker.enabled = false → tracker.state = .idle

/-- A letter is a capital if one is due and the press is no shortcut. -/
theorem onEvent_of_letterClass (h : tracker.Coherent) (hdown : event.action = .press)
    (hkey : event.key.isLetterClass = true) :
    (tracker.onEvent event).2 = (tracker.isPrimed && event.mods.shiftOrAltGrOnly) := by
  unfold onEvent
  rw [classify_of_letterClass hdown hkey]
  cases henabled : tracker.enabled with
  | false =>
    have hidle : tracker.isPrimed = false := by
      unfold isPrimed
      rw [h henabled]
      rfl
    rw [hidle]
    rfl
  | true =>
    cases event.mods.shiftOrAltGrOnly with
    | false => exact (Bool.and_false _).symm
    | true => exact (Bool.and_true _).symm

namespace Coherent

theorem enable (tracker : SentenceCase) : tracker.enable.Coherent := by
  intro hoff
  cases hoff

theorem disable (tracker : SentenceCase) : tracker.disable.Coherent :=
  fun _ => rfl

theorem toggle (tracker : SentenceCase) : tracker.toggle.Coherent := by
  unfold SentenceCase.toggle
  split
  · exact disable tracker
  · exact enable tracker

theorem prime (h : tracker.Coherent) : tracker.prime.Coherent := by
  unfold SentenceCase.prime
  split
  · next hon => exact fun hoff => absurd (hon.symm.trans hoff) Bool.noConfusion
  · exact h

theorem onEvent (h : tracker.Coherent) (event : KeyEvent) :
    (tracker.onEvent event).1.Coherent := by
  unfold SentenceCase.onEvent
  split
  · next hon =>
    intro hoff
    -- no event turns the tracker off
    have hstays : ∀ state, ({ tracker with state := state } : SentenceCase).enabled = true :=
      fun _ => hon
    split at hoff <;> exact absurd (hoff.symm.trans (hstays _)) Bool.noConfusion
  · exact h

end Coherent

/-- All that an event can do to the tracker. -/
inductive Moved (tracker : SentenceCase) (event : KeyEvent) : SentenceCase → Prop where
  | stays : Moved tracker event tracker
  | enable : Moved tracker event tracker.enable
  | toggle : Moved tracker event tracker.toggle
  | seen : Moved tracker event (tracker.onEvent event).1
  | primed : Moved tracker event (tracker.onEvent event).1.prime

theorem Coherent.moved (h : tracker.Coherent) (hmoved : Moved tracker event next) :
    next.Coherent := by
  cases hmoved with
  | stays => exact h
  | enable => exact .enable tracker
  | toggle => exact .toggle tracker
  | seen => exact h.onEvent event
  | primed => exact (h.onEvent event).prime

end SentenceCase

/-! ## The typist -/

namespace Typist

/-- A handler leaves the tracker alone or makes a capital due. -/
theorem typeKey_sentence (typist : Typist) (event : KeyEvent) (cue : Cue) :
    (typist.typeKey event cue).1.sentence = typist.sentence ∨
      (typist.typeKey event cue).1.sentence = typist.sentence.prime := by
  have hback (case : FragmentCase) :
      (typist.handBack case).sentence = typist.sentence ∨
        (typist.handBack case).sentence = typist.sentence.prime := by
    unfold handBack
    split
    · exact .inr rfl
    · exact .inl rfl
  unfold typeKey
  cases event.key.role with
  | magic side =>
    show (typist.magic side cue.case).1.sentence = _ ∨ (typist.magic side cue.case).1.sentence = _
    unfold magic
    cases side.expand typist.memory.key typist.memory.mods with
    | none => exact hback cue.case
    | some expansion =>
      by_cases hends : endsSentence expansion.text = true
      · simp [hends, typeText, remember]
      · simp [hends, typeText, remember]
  | alternate table =>
    show (typist.alternate table cue.case).1.sentence = _ ∨
      (typist.alternate table cue.case).1.sentence = _
    unfold alternate
    split
    · exact .inl rfl
    · exact hback cue.case
  | _ => exact .inl rfl

/-- **All that an event does to the sentence tracker.** -/
theorem handle_sentence (typist : Typist) (event : KeyEvent) :
    SentenceCase.Moved typist.sentence event (typist.handle event).1.sentence := by
  unfold handle
  cases event.action with
  | press =>
    show SentenceCase.Moved typist.sentence event (typist.press event).1.sentence
    cases hmode : event.key.role.isModeSwitch with
    | true =>
      unfold press
      cases hrole : event.key.role with
      | capsWordToggle => exact .stays
      | sentenceCaseOn => exact .enable
      | sentenceCaseToggle => exact .toggle
      | _ =>
        rw [hrole] at hmode
        cases hmode
    | false =>
      rw [typist.press_eq hmode]
      have hseen := typist.track_sentence event
      rcases (typist.track event).1.typeKey_sentence event (typist.track event).2.1 with
        hsame | hprimed
      · rw [hsame, hseen]
        exact .seen
      · rw [hprimed, hseen]
        exact .primed
  | release =>
    show SentenceCase.Moved typist.sentence event (typist.release event).1.sentence
    unfold release
    cases event.key.role with
    | dual letters =>
      have hsame : (typist.resolveDual letters event).1.sentence = typist.sentence := by
        obtain ⟨shown, capital, -, -, ⟨-, hresolve⟩ | ⟨-, hresolve⟩⟩ :=
          typist.resolveDual_cases letters event
        · rw [hresolve]
          rfl
        · rw [hresolve]
          rfl
      show SentenceCase.Moved _ _ (typist.resolveDual letters event).1.sentence
      rw [hsame]
      exact .stays
    | _ => exact .stays

end Typist

/-- **Every run keeps the tracker coherent.** -/
theorem Engine.Reachable.coherent {settings : EngineSettings} {engine : Engine}
    (h : Reachable settings engine) : engine.typist.sentence.Coherent := by
  obtain ⟨calls, rfl⟩ := h
  rw [callAll_stepAll]
  have hfresh : (new settings).typist.sentence.Coherent := fun _ => rfl
  refine @Typist.stepAll_invariant (fun _ typist => typist.sentence.Coherent) ?_ [] _ hfresh _
  intro before typist first hcoherent
  cases first with
  | handle event => exact hcoherent.moved (typist.handle_sentence event)
  | layer layer =>
    rw [Typist.step_layer]
    exact hcoherent
  | capsWord active =>
    rw [Typist.step_capsWord]
    exact hcoherent

end Keymap
