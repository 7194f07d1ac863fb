import Mathlib
import Keymap.Proofs.Capitals
import Keymap.Proofs.Editing
import Keymap.Proofs.Host
import Keymap.Proofs.ToldModifiers
import Keymap.Proofs.Typist.Trackers

/-!
# Where the tracker sees the end of a sentence

When the shift keys are used, the sentence tracker sees keys and modifiers, and
the host shows characters. The two agree on all that is typed but for one key:
the full stop ends a sentence for the tracker also when it is shifted, and then
the host shows a `>`.

- `Text.lastCounting`: the character that decides whether a capital is due.
- `due_classify`: the tracker classes a key by its character, and `>` as a stop.
- `Agrees`: the invariant between the tracker and the editor, kept by every event.
- `Engine.feedAll_primed_iff`: **the tracker is primed where the text is, unless
  the text ends in a `>`**.
-/

namespace Keymap

open Stroke

/-! ## The text -/

namespace Text

/-- The last character that counts in the search for the end of a sentence. -/
def lastCounting (text : List Char) : Option Char :=
  (text.filter fun c => !isTransparent c).getLast?

theorem capitalDue_eq (text : List Char) :
    capitalDue text = (lastCounting text).any isTerminator := by
  unfold capitalDue lastCounting
  cases (text.filter fun c => !isTransparent c).getLast? <;> rfl

theorem lastCounting_concat (text : List Char) (c : Char) :
    lastCounting (text ++ [c]) = if isTransparent c then lastCounting text else some c := by
  unfold lastCounting
  rw [List.filter_append]
  by_cases h : isTransparent c = true
  · simp [h]
  · simp [h]

/-- A character after which the tracker has a capital due. -/
def primes (c : Char) : Bool :=
  isTerminator c || c == '>'

end Text

open Text

/-! ## Keys that type or shift -/

/-- A key that types a character, or a shift key. -/
def Key.typesOrShifts (key : Key) : Bool :=
  (key.char? false).isSome || key == .leftShift || key == .rightShift

namespace Stroke

/-- Where no other modifier is used, nothing but shift is down. -/
theorem not_hasNonShift_modsDown {strokes : List Stroke}
    (h : ∀ stroke ∈ strokes, stroke.key.typesOrShifts = true) :
    (modsDown strokes).hasNonShift = false := by
  have hup (key : Key) (hkey : key.typesOrShifts = false) :
      isDown key false strokes = false := by
    refine isDown_of_forall_ne fun stroke hmem heq => ?_
    rw [← heq, h stroke hmem] at hkey
    cases hkey
  show (isDown .leftCtrl false strokes || isDown .leftAlt false strokes ||
    isDown .leftGui false strokes || isDown .rightCtrl false strokes ||
    isDown .rightAlt false strokes || isDown .rightGui false strokes) = false
  rw [hup _ rfl, hup _ rfl, hup _ rfl, hup _ rfl, hup _ rfl, hup _ rfl]
  rfl

end Stroke

/-! ## The tracker -/

/-- **The tracker classes a key by the character that it types**, a `>` as the end of a
sentence. A letter is a letter with and without shift. -/
theorem due_classify {event : KeyEvent} {shown : Bool} {c : Char} (hdown : event.action = .press)
    (hglyph : event.key.char? shown = some c) (hmods : event.mods.hasNonShift = false)
    (hshown : event.key.isLetterClass = false → shown = event.mods.anyShift) (before : Bool) :
    (SentenceCase.classify event).due before = if isTransparent c then before else primes c := by
  obtain ⟨key, action, mods, time⟩ := event
  subst hdown
  have honly := ModMask.shiftOrAltGrOnly_of_not_hasNonShift hmods
  change key.char? shown = some c at hglyph
  change key.isLetterClass = false → shown = mods.anyShift at hshown
  unfold SentenceCase.classify
  simp only [KeyEvent.isRelease, honly]
  cases hshift : mods.anyShift <;> rw [hshift] at hshown <;> cases shown <;>
    cases key <;> cases hglyph <;> first | rfl | cases hshown rfl

theorem ofKey?_of_typesOrShifts {key : Key} (h : key.typesOrShifts = true) :
    ModTap.ofKey? key = none := by
  cases key <;> first | rfl | cases h

theorem role_of_typesOrShifts {key : Key} (h : key.typesOrShifts = true) :
    key.role = .plain := by
  cases key <;> first | rfl | cases h

/-- A modifier key is nothing to the tracker. -/
theorem SentenceCase.onEvent_of_modifier? (tracker : SentenceCase) {event : KeyEvent}
    {m : Modifier} (h : event.key.modifier? = some m) :
    tracker.onEvent event = (tracker, false) := by
  have hclass : classify event = .ignore := by
    unfold classify
    rw [Key.isModifier_of_modifier? h, Bool.or_true, if_pos rfl]
  unfold onEvent
  rw [hclass]
  split <;> rfl

/-! ## One event -/

/-- What is known of the tracker and the editor after some strokes. -/
structure Agrees (typist : Typist) (editor : Editor) (strokes : List Stroke) : Prop where
  enabled : typist.sentence.enabled = true
  /-- The tracker goes by the last character that counts. -/
  primed : typist.sentence.isPrimed = (lastCounting editor.chars).any primes
  /-- The cursor is at the end. -/
  cursor : editor.cursor = editor.chars.length
  held : editor.held = modsDown strokes
  shiftOnly : ∀ stroke ∈ strokes, stroke.key.typesOrShifts = true

namespace Agrees

variable {typist : Typist} {editor : Editor} {strokes : List Stroke} {event : KeyEvent}

/-- Nothing but shift is held. -/
theorem not_hasNonShift (h : Agrees typist editor strokes) : editor.held.hasNonShift = false := by
  rw [h.held]
  exact not_hasNonShift_modsDown h.shiftOnly

/-- A stroke of a key that types a character or of a shift key keeps the shift keys the
only modifiers. -/
theorem shiftOnly_concat (h : Agrees typist editor strokes)
    (hkey : event.key.typesOrShifts = true) :
    ∀ stroke ∈ strokes ++ [event.stroke], stroke.key.typesOrShifts = true :=
  List.forall_mem_append.mpr ⟨h.shiftOnly, List.forall_mem_singleton.mpr hkey⟩

/-- A key that types a character goes down. -/
theorem press_glyph (h : Agrees typist editor strokes) (hdown : event.action = .press)
    {plain : Char} (hglyph : event.key.char? false = some plain)
    (hmods : event.mods = modsDown strokes) :
    Agrees (typist.handle event).1 (editor.emitAll (typist.handle event).2.outputs)
      (strokes ++ [event.stroke]) := by
  obtain ⟨extra, hextra, houtputs, hsentence, -⟩ := typist.press_plain (role_of_glyph hglyph)
  -- the host shows the character that the key has with what is held and the extra shift
  obtain ⟨c, hshown⟩ := Key.char?_of_char? hglyph (editor.held ∪ extra).anyShift
  have hshortcut : (editor.held ∪ extra).hasNonShift = false := by
    rcases hextra with rfl | ⟨rfl, -⟩
    · rw [ModMask.union_empty, h.not_hasNonShift]
    · rw [ModMask.hasNonShift_union_leftShift, h.not_hasNonShift]
  have hshift (hletter : event.key.isLetterClass = false) :
      (editor.held ∪ extra).anyShift = event.mods.anyShift := by
    rcases hextra with rfl | ⟨-, hkey⟩
    · rw [ModMask.union_empty, h.held, hmods]
    · exact absurd (hletter.symm.trans hkey) Bool.false_ne_true
  have hemit : editor.emit (.forward event.key .press extra) =
      { editor with chars := editor.chars ++ [c], cursor := editor.cursor + 1 } := by
    rw [← Editor.insert_at_end h.cursor, ← Editor.press_glyph hshortcut hshown]
    exact Editor.transition_press (Key.modifier?_of_char? hglyph) extra
  have hheld := Editor.held_emit h.held (.forward event.key .press extra)
  -- and the tracker classes the key by that character
  obtain ⟨henabled, hprimed, -⟩ := SentenceCase.onEvent_of_enabled event h.enabled
  have hdue := due_classify hdown hshown (hmods ▸ not_hasNonShift_modsDown h.shiftOnly) hshift
  rw [typist.handle_press hdown, houtputs, Editor.emitAll_cons, Editor.emitAll_nil]
  rw [hemit] at hheld ⊢
  constructor
  case enabled => rw [hsentence, henabled]
  case primed =>
    rw [hsentence, hprimed, hdue, h.primed, lastCounting_concat]
    split <;> rfl
  case cursor => simp [h.cursor]
  case held => rw [KeyEvent.stroke_of_press hdown]; exact hheld
  case shiftOnly => exact h.shiftOnly_concat (by simp [Key.typesOrShifts, hglyph])

/-- A stroke that types nothing and that the tracker does not see. -/
theorem of_same_text (h : Agrees typist editor strokes) {typist' : Typist} {editor' : Editor}
    (hsentence : typist'.sentence = typist.sentence)
    (htext : editor' = { editor with held := editor'.held })
    (hheld : editor'.held = modsDown (strokes ++ [event.stroke]))
    (hkey : event.key.typesOrShifts = true) :
    Agrees typist' editor' (strokes ++ [event.stroke]) := by
  constructor
  case enabled => rw [hsentence, h.enabled]
  case primed =>
    rw [hsentence, htext]
    exact h.primed
  case cursor =>
    rw [htext]
    exact h.cursor
  case held => exact hheld
  case shiftOnly => exact h.shiftOnly_concat hkey

/-- A shift key goes down. -/
theorem press_shift (h : Agrees typist editor strokes) (hdown : event.action = .press)
    {m : Modifier} (hmod : event.key.modifier? = some m)
    (hkey : event.key.typesOrShifts = true) :
    Agrees (typist.handle event).1 (editor.emitAll (typist.handle event).2.outputs)
      (strokes ++ [event.stroke]) := by
  obtain ⟨extra, -, houtputs, hsentence, -⟩ := typist.press_plain (role_of_typesOrShifts hkey)
  rw [SentenceCase.onEvent_of_modifier? _ hmod] at hsentence
  have hheld := Editor.held_emit h.held (.forward event.key .press extra)
  rw [typist.handle_press hdown, houtputs]
  refine h.of_same_text hsentence (Editor.transition_modifier hmod .press extra) ?_ hkey
  rw [KeyEvent.stroke_of_press hdown]
  exact hheld

/-- A key comes up. -/
theorem release (h : Agrees typist editor strokes) (hup : event.action = .release)
    (hkey : event.key.typesOrShifts = true) :
    Agrees (typist.handle event).1 (editor.emitAll (typist.handle event).2.outputs)
      (strokes ++ [event.stroke]) := by
  have hheld := Editor.held_emit h.held (.forward event.key .release ∅)
  have htext : editor.transition event.key .release ∅ =
      { editor with held := (editor.transition event.key .release ∅).held } := by
    cases hmod : event.key.modifier? with
    | some m => exact Editor.transition_modifier hmod .release ∅
    | none => rw [Editor.transition_release hmod]
  rw [typist.handle_release_plain hup (role_of_typesOrShifts hkey)]
  refine h.of_same_text rfl htext ?_ hkey
  rw [KeyEvent.stroke_of_release hup]
  exact hheld

/-- An event that tells the modifiers that are down. -/
theorem handle (h : Agrees typist editor strokes) (hkey : event.key.typesOrShifts = true)
    (hmods : event.mods = modsDown strokes \ event.key.ownMask) :
    Agrees (typist.handle event).1 (editor.emitAll (typist.handle event).2.outputs)
      (strokes ++ [event.stroke]) := by
  cases haction : event.action with
  | release => exact h.release haction hkey
  | press =>
    cases hmod : event.key.modifier? with
    | some m => exact h.press_shift haction hmod hkey
    | none =>
      have hglyph : (event.key.char? false).isSome := by
        cases hchar : event.key.char? false with
        | some c => rfl
        | none =>
          -- a shift key would hold a modifier
          revert hkey hmod hchar
          cases event.key <;> simp [Key.typesOrShifts, Key.modifier?, Key.char?, Key.glyphs]
      obtain ⟨plain, hglyph⟩ := Option.isSome_iff_exists.mp hglyph
      refine h.press_glyph haction hglyph ?_
      rw [hmods, Key.ownMask, hmod]
      exact ModMask.ext_holds fun m => by simp

/-- **Every run of such events keeps the invariant.** -/
theorem settleAll {before events : List KeyEvent}
    (h : Agrees typist editor (before.map KeyEvent.stroke))
    (hkeys : ∀ event ∈ events, event.key.typesOrShifts = true)
    (htold : ToldMods (before ++ events)) :
    let settled := Engine.settleAll typist (events.map .pass)
    Agrees settled.1 (editor.emitAll settled.2.outputs)
      ((before ++ events).map KeyEvent.stroke) := by
  induction events generalizing typist editor before with
  | nil => simpa [Engine.settleAll] using h
  | cons event rest ih =>
    obtain ⟨hkey, hkeys⟩ := List.forall_mem_cons.mp hkeys
    have hnext := h.handle hkey htold.mods_eq
    rw [← List.map_singleton, ← List.map_append] at hnext
    rw [List.append_cons] at htold ⊢
    show Agrees (Engine.settleAll (typist.handle event).1 (rest.map .pass)).1
      (editor.emitAll ((typist.handle event).2 ++
        (Engine.settleAll (typist.handle event).1 (rest.map .pass)).2).outputs) _
    rw [Response.outputs_append, Editor.emitAll_append]
    exact ih hnext hkeys htold

end Agrees

/-! ## The pipeline -/

namespace Engine

/-- **The tracker is primed where the text is, unless the text ends in a `>`.** After
every event the sentence tracker has a capital due just when the last character that
counts ends a sentence or is a `>`: the full stop key ends a sentence also when it is
shifted. -/
theorem feedAll_primed_iff {settings : EngineSettings} (hcombos : settings.combos = [])
    (hsentence : settings.sentenceCase = true) {events : List KeyEvent}
    (hkeys : ∀ event ∈ events, event.key.typesOrShifts = true) (htold : ToldMods events)
    {front : List KeyEvent} (hfront : front <+: events) :
    let run := (new settings).feedAll front
    let text := (Editor.emitAll {} run.2.outputs).chars
    run.1.typist.sentence.isPrimed = (lastCounting text).any primes ∧
      (run.1.typist.sentence.isPrimed = capitalDue text ↔ lastCounting text ≠ some '>') := by
  intro run text
  obtain ⟨back, rfl⟩ := hfront
  have hkeys := (List.forall_mem_append.mp hkeys).1
  -- none of these keys is in a chord or a mod-tap, so the typist sees what is fed
  have hordinary : ∀ event ∈ front, ModTap.ofKey? event.key = none :=
    fun event hmem => ofKey?_of_typesOrShifts (hkeys event hmem)
  have hrun : run = _ := (rests_new hcombos).feedAll_ordinary hordinary
  have hfresh : Agrees (new settings).typist {} ([].map KeyEvent.stroke) :=
    ⟨hsentence, rfl, rfl, rfl, by simp⟩
  have hagrees := hfresh.settleAll hkeys htold.of_append
  have hprimed : run.1.typist.sentence.isPrimed = (lastCounting text).any primes := by
    rw [show text = (Editor.emitAll {} run.2.outputs).chars from rfl, hrun]
    exact hagrees.primed
  refine ⟨hprimed, ?_⟩
  rw [hprimed, capitalDue_eq]
  cases lastCounting text with
  | none => simp
  | some c =>
    by_cases hc : c = '>'
    · subst hc
      decide
    · simp [primes, hc]

/-- A shifted `/` is a question mark, for the tracker as for the host. -/
theorem feedAll_primed_iff_question :
    let events : List KeyEvent :=
      [.press .rightShift ∅ 0, .press .slash (.single .rightShift) 10]
    let run := (new {}).feedAll events
    (∀ event ∈ events, event.key.typesOrShifts = true) ∧ ToldMods events ∧
      run.1.typist.sentence.isPrimed = capitalDue (Editor.emitAll {} run.2.outputs).chars ∧
      (Editor.emitAll {} run.2.outputs).chars = ['?'] := by
  intro events run
  have hkeys : ∀ event ∈ events, event.key.typesOrShifts = true := by decide
  have htold : ToldMods events := by decide
  have htext : (Editor.emitAll {} run.2.outputs).chars = ['?'] := by cbv
  have hlast : lastCounting (Editor.emitAll {} run.2.outputs).chars ≠ some '>' := by
    rw [htext]
    decide
  refine ⟨hkeys, htold, ?_, htext⟩
  exact (@feedAll_primed_iff {} rfl rfl events hkeys htold events (List.prefix_refl _)).2.mpr
    hlast

/-- A shifted full stop is a `>`, which ends no sentence, and yet a capital is due. -/
theorem primed_after_shifted_dot :
    let events : List KeyEvent := [.press .leftShift ∅ 0, .press .dot (.single .leftShift) 10]
    let run := (new {}).feedAll events
    (∀ event ∈ events, event.key.typesOrShifts = true) ∧ ToldMods events ∧
      (Editor.emitAll {} run.2.outputs).text = ">" ∧
      run.1.typist.sentence.isPrimed = true ∧
      capitalDue (Editor.emitAll {} run.2.outputs).chars = false :=
  ⟨by decide, by decide, by cbv, by cbv, by cbv⟩

end Engine

end Keymap
