import Mathlib
import Keymap.Proofs.Editing
import Keymap.Proofs.Host
import Keymap.Proofs.Rewriting
import Keymap.Proofs.Typist.Trackers

/-!
# Inside a word or at its end

The word tracker follows keys and the texts that are typed, each on a path of its
own. Where nothing moves the cursor or deletes, it knows what stands before the
cursor, so that the quote-pair key types an apostrophe behind a letter.

- `Editor.afterLetter`: the character before the cursor is a letter.
- `Key.onlyTypes`: the keys that neither move the cursor nor delete.
- `Follows`: the tracker is right about the editor.
- `Follows.typeKey`: **every handler keeps it right**.
- `Tap`, `Follows.type`: a key is pressed and let go.
- `Engine.feedAll_withinWord`: **after any taps the tracker is right**.
-/

namespace Keymap

/-! ## Letters -/

namespace Text

theorem isAlphabetic_of_isAlpha {c : Char} (h : c.isAlpha = true) : isAlphabetic c = true := by
  have hascii : c.toNat < 128 := by
    simp only [Char.isAlpha, Char.isUpper, Char.isLower, Bool.or_eq_true, Bool.and_eq_true,
      decide_eq_true_eq, UInt32.le_iff_toNat_le] at h
    show c.val.toNat < 128
    rcases h with ⟨-, h⟩ | ⟨-, h⟩
    · exact Nat.lt_of_le_of_lt h (by decide)
    · exact Nat.lt_of_le_of_lt h (by decide)
  rw [isAlphabetic, if_pos hascii, h]

/-- A capital is a letter if the small letter is one. -/
theorem isAlphabetic_toUpper (c : Char) : isAlphabetic c.toUpper = isAlphabetic c := by
  by_cases h : c.isLower = true
  · have halpha : c.isAlpha = true := by simp [Char.isAlpha, h]
    rw [isAlphabetic_of_isAlpha halpha, isAlphabetic_of_isAlpha]
    rw [Char.isAlpha_toUpper_eq_isAlpha, halpha]
  · rw [Char.toUpper_eq_of_not_isLower h]

end Text

open Text

/-- The keys that begin with a letter and type a character type a letter, and the
others do not. -/
theorem Key.isAlphabetic_of_char? {key : Key} {shifted : Bool} {c : Char}
    (h : key.char? shifted = some c) : isAlphabetic c = key.isLetterClass := by
  cases shifted <;> cases key <;> cases h <;> decide

/-- The text of a fragment ends in a letter if the fragment does. -/
theorem FragmentCase.isAlphabetic_apply (case : FragmentCase) (text : String) :
    ((case.apply text).toList.map (Editor.cased case.shifted)).getLast?.any isAlphabetic =
      text.toList.getLast?.any isAlphabetic := by
  have hcased (c : Char) : isAlphabetic (Editor.cased case.shifted c) = isAlphabetic c := by
    unfold Editor.cased
    split
    · exact isAlphabetic_toUpper c
    · rfl
  have hfirst (chars : List Char) : (capitaliseFirst chars).getLast?.any isAlphabetic =
      chars.getLast?.any isAlphabetic := by
    match chars with
    | [] => rfl
    | [c] => exact isAlphabetic_toUpper c
    | c :: d :: rest =>
      show (c.toUpper :: d :: rest).getLast?.any isAlphabetic = _
      rw [List.getLast?_cons_cons, List.getLast?_cons_cons]
  rw [List.getLast?_map, Option.any_map]
  simp only [hcased]
  unfold apply
  split
  · rw [String.toList_ofList, hfirst]
  · rfl

theorem FragmentCase.apply_ne_nil (case : FragmentCase) {text : String} (h : text ≠ "") :
    (case.apply text).toList.map (Editor.cased case.shifted) ≠ [] := by
  have hchars : text.toList ≠ [] := by simpa using h
  rw [Ne, List.map_eq_nil_iff]
  unfold apply
  split
  · rw [String.toList_ofList]
    cases hcases : text.toList with
    | nil => exact absurd hcases hchars
    | cons c rest => exact List.cons_ne_nil _ _
  · exact hchars

/-- After a text the tracker goes by its last character. -/
theorem WordPosition.withinWord_observeText (position : WordPosition) {text : String}
    (h : text ≠ "") :
    (position.observeText text).withinWord = text.toList.getLast?.any isAlphabetic := by
  unfold observeText
  split
  · next c hlast => rw [hlast]; rfl
  · next hlast =>
    rw [List.getLast?_eq_none_iff] at hlast
    exact absurd (by simpa using hlast) h

theorem WordPosition.observe_press (position : WordPosition) {event : KeyEvent}
    (hdown : event.action = .press) (hmod : event.key.isModifier = false) :
    position.observe event = ⟨event.key.isLetterClass⟩ := by
  simp [observe, KeyEvent.isPress, hdown, hmod]

namespace VowelSwitch

/-- The switch types a shortcut only in a shortcut. -/
theorem hasNonShift_tapMods (mods : ModMask) (uppercase : Bool) :
    (tapMods mods uppercase).hasNonShift = mods.hasNonShift := by
  unfold tapMods
  split
  · rfl
  · split
    · exact ModMask.hasNonShift_union_leftShift mods
    · rfl

end VowelSwitch

namespace Editor

/-- The character before the cursor is a letter. -/
def afterLetter (editor : Editor) : Bool :=
  editor.before?.any isAlphabetic

/-- Outputs that send no stroke on leave the held modifiers alone. -/
theorem held_emitAll_of_silent (editor : Editor) {outputs : List Output}
    (h : outputs.filterMap Output.stroke? = []) :
    (editor.emitAll outputs).held = editor.held := by
  refine ModMask.ext_holds fun m => ?_
  rw [emitAll_held, h]
  rfl

/-- A modifier key that is pressed and let go while nothing is held leaves no trace. -/
theorem emitAll_modifier {editor : Editor} (h : editor.held = ∅) {key : Key} {m : Modifier}
    (hkey : key.modifier? = some m) (extra extra' : ModMask) :
    editor.emitAll [.forward key .press extra, .forward key .release extra'] = editor := by
  have hheld : (editor.held ∪ .single m) \ .single m = editor.held := by
    rw [h]
    cases m <;> decide
  show (editor.transition key .press extra).transition key .release extra' = editor
  simp only [transition, hkey, hheld]

end Editor

/-! ## Keys -/

/-- A key that neither moves the cursor nor deletes, and does not end a word without
typing something. -/
def Key.onlyTypes (key : Key) : Bool :=
  !(key == .noKey || key == .magicPeriod || key == .escape || key.isNavigation ||
    key.isDeletion)

/-- Of these keys, one that goes to the host holds a modifier or types a character. -/
theorem Key.modifier_or_char_of_plain {key : Key} (hplain : key.role = .plain)
    (hkey : key.onlyTypes = true) :
    key.modifier?.isSome ∨ (key.char? false).isSome := by
  cases key <;> first | exact .inl rfl | exact .inr rfl | contradiction

/-- Of these keys, only the mod-taps do nothing. -/
theorem Key.role_ne_inert {key : Key} (hordinary : ModTap.ofKey? key = none)
    (hkey : key.onlyTypes = true) : key.role ≠ .inert := by
  intro hinert
  cases key <;> contradiction

theorem Key.isLetterClass_of_vowelSwitch {key : Key} {reversed : Bool}
    (h : key.role = .vowelSwitch reversed) : key.isLetterClass = true := by
  rw [eq_of_vowelSwitch h]
  cases reversed <;> rfl

theorem Key.char?_of_isLetter {key : Key} (h : key.isLetter = true) (shifted : Bool) :
    ∃ c, key.char? shifted = some c := by
  cases key <;> first | exact ⟨_, rfl⟩ | cases h

theorem Key.not_isModifier_of_char? {key : Key} {shifted : Bool} {c : Char}
    (h : key.char? shifted = some c) : key.isModifier = false := by
  cases key <;> first | rfl | cases h

/-- No expansion is empty. -/
theorem MagicSide.text_ne_empty_of_expand {side : MagicSide} {key : Key} {mods : ModMask}
    {expansion : Expansion} (h : side.expand key mods = some expansion) :
    expansion.text ≠ "" := by
  have htable : ∀ entry ∈ side.table.entries, entry.2.text ≠ "" := by
    cases side <;> decide
  unfold expand at h
  split at h
  · cases h
  · exact KeyTable.of_find? (p := fun expansion => expansion.text ≠ "") htable h

/-- No text of an alternate-repeat key is empty. -/
theorem text_ne_empty_of_alternate {key remembered : Key} {table : KeyTable String}
    (hrole : key.role = .alternate table) {text : String}
    (h : table.find? remembered = some text) : text ≠ "" := by
  have htable : ∀ entry ∈ table.entries, entry.2 ≠ "" := by
    cases key <;> cases hrole <;> decide
  exact KeyTable.of_find? (p := (· ≠ "")) htable h

/-- No word is empty. -/
theorem text_ne_empty_of_word {key : Key} {entry : WordMacro} (hrole : key.role = .word entry) :
    entry.text ≠ "" := by
  cases key <;> cases hrole <;> decide

/-! ## The tracker and the editor -/

/-- **The word tracker is right about the editor**, in which nothing is held. -/
structure Follows (position : WordPosition) (editor : Editor) : Prop where
  line : editor.InLine
  held : editor.held = ∅
  word : position.withinWord = editor.afterLetter

namespace Follows

variable {typist : Typist} {position : WordPosition} {editor : Editor} {event : KeyEvent}

/-- A character is typed. -/
theorem insert (h : Follows position editor) (c : Char) :
    Follows ⟨isAlphabetic c⟩ (editor.insert c) := by
  constructor
  case line => exact h.line.insert c
  case held => exact h.held
  case word =>
    unfold Editor.afterLetter
    rw [Editor.before?_insert h.line]
    rfl

/-- A key that types a character goes down. -/
theorem press_glyph (h : Follows position editor) {key : Key} {mods : ModMask} {c : Char}
    (hmods : mods.hasNonShift = false) (hglyph : key.char? mods.anyShift = some c) :
    Follows ⟨key.isLetterClass⟩ (editor.press key mods) := by
  rw [Editor.press_glyph hmods hglyph, ← Key.isAlphabetic_of_char? hglyph]
  exact h.insert c

/-- A letter is tapped. -/
theorem press_letter (h : Follows position editor) {key : Key} {mods : ModMask}
    (hmods : mods.hasNonShift = false) (hletter : key.isLetter = true) :
    Follows ⟨true⟩ (editor.press key mods) := by
  obtain ⟨c, hglyph⟩ := Key.char?_of_isLetter hletter mods.anyShift
  rw [← Key.isLetterClass_of_isLetter hletter]
  exact h.press_glyph hmods hglyph

/-- A fragment is typed. -/
theorem typeText (h : Follows position editor) {text : String} (hne : text ≠ "")
    (backspaces : Nat) (case : FragmentCase) :
    Follows (typist.typeText text backspaces case).1.position
      (editor.emitAll (typist.typeText text backspaces case).2) := by
  have hchars := case.apply_ne_nil hne
  constructor
  case line => exact h.line.emitAll _
  case held =>
    rw [← h.held]
    exact editor.held_emitAll_of_silent (Typist.filterMap_typeFragment text backspaces case)
  case word =>
    -- the characters are typed where the backspaces left the cursor
    have hline := h.line.emitAll (List.replicate backspaces (.tap .backspace ∅))
    show (typist.position.observeText text).withinWord = _
    rw [WordPosition.withinWord_observeText _ hne, ← case.isAlphabetic_apply]
    unfold Typist.typeText typeFragment
    rw [Editor.emitAll_append]
    exact congrArg (Option.any isAlphabetic) (Editor.before?_insertAll hline hchars).symm

/-- A trigger with nothing to type leaves both alone. -/
theorem handBack (h : Follows typist.position editor) (case : FragmentCase) :
    Follows (typist.handBack case).position editor := by
  unfold Typist.handBack
  split
  · exact h
  · exact h

/-- A magic key goes down. -/
theorem magic (h : Follows typist.position editor) (side : MagicSide) (case : FragmentCase) :
    Follows (typist.magic side case).1.position
      (editor.emitAll (typist.magic side case).2) := by
  unfold Typist.magic
  split
  · exact h.handBack case
  · next expansion hexpand =>
    have htyped : Follows
        (typist.typeText expansion.text expansion.backspaces case).1.position
        (editor.emitAll (typist.typeText expansion.text expansion.backspaces case).2) :=
      h.typeText (MagicSide.text_ne_empty_of_expand hexpand) _ _
    show Follows (ite _ _ _ : Typist).position _
    split
    · exact htyped
    · exact htyped

/-- An alternate-repeat key goes down. -/
theorem alternate (h : Follows typist.position editor) {key : Key} {table : KeyTable String}
    (hrole : key.role = .alternate table) (case : FragmentCase) :
    Follows (typist.alternate table case).1.position
      (editor.emitAll (typist.alternate table case).2) := by
  unfold Typist.alternate
  split
  · next text hfind => exact h.typeText (text_ne_empty_of_alternate hrole hfind) 0 case
  · exact h.handBack case

/-- The quote-pair key goes down: the cursor is left behind a quote. -/
theorem quote (h : Follows position editor) :
    Follows {} (editor.emitAll position.quote) := by
  unfold WordPosition.quote
  split
  · show Follows ⟨Key.apostrophe.isLetterClass⟩ (editor.press .apostrophe ∅)
    exact h.press_glyph rfl rfl
  · -- the second quote is typed and stepped back over
    have hfirst := h.insert '\x22'
    constructor
    case line => exact h.line.emitAll _
    case held => exact h.held
    case word =>
      have hbefore : (editor.emitAll [.text "\"\"" false, .tap .left ∅]).before? =
          (editor.insert '\x22').before? := Editor.before?_insert_left hfirst.line
      unfold Editor.afterLetter
      rw [hbefore]
      exact hfirst.word

/-- A key that types a character is sent on, with no more than a shift. -/
theorem forward (h : Follows position editor) (hdown : event.action = .press)
    (hmod : event.key.modifier? = none) {plain : Char} (hplain : event.key.char? false = some plain)
    {extra : ModMask} (hextra : extra = ∅ ∨ extra = .single .leftShift) :
    Follows (position.observe event) (editor.transition event.key .press extra) := by
  obtain ⟨c, hglyph⟩ := Key.char?_of_char? hplain (editor.held ∪ extra).anyShift
  rw [position.observe_press hdown (Key.not_isModifier_of_char? hplain),
    Editor.transition_press hmod]
  refine h.press_glyph ?_ hglyph
  rw [h.held]
  rcases hextra with rfl | rfl
  · rfl
  · rfl

/-- **Every handler keeps the tracker right**, while no modifier is held. -/
theorem typeKey (h : Follows typist.position editor) (hdown : event.action = .press)
    (hmods : event.mods = ∅) (hkey : event.key.onlyTypes = true)
    (hordinary : ModTap.ofKey? event.key = none) (hmod : event.key.modifier? = none)
    (hdual : event.key.isDual = false) (hmode : event.key.role.isModeSwitch = false) (cue : Cue) :
    Follows (typist.typeKey event cue).1.position
      (editor.emitAll (typist.typeKey event cue).2) := by
  unfold Key.isDual at hdual
  unfold Typist.typeKey
  cases hrole : event.key.role with
  | quotePair => exact h.quote
  | magic side => exact h.magic side cue.case
  | alternate table => exact h.alternate hrole cue.case
  | word entry => exact h.typeText (text_ne_empty_of_word hrole) 0 cue.case
  | vowelSwitch reversed =>
    have hletter := Key.isLetterClass_of_vowelSwitch hrole
    have hobserved := typist.position.observe_press hdown
      (Key.not_isModifier_of_isLetterClass hletter)
    show Follows (typist.position.observe event) (editor.press _ _)
    rw [hobserved, hletter, hmods]
    refine h.press_letter ?_ (VowelSwitch.isLetter_choose _ _ _)
    rw [VowelSwitch.hasNonShift_tapMods]
    rfl
  | plain =>
    have hmodifier : event.key.modifier?.isSome = false := by rw [hmod]; rfl
    have hchar := (Key.modifier_or_char_of_plain hrole hkey).resolve_left (by simp [hmodifier])
    obtain ⟨plain, hplain⟩ := Option.isSome_iff_exists.mp hchar
    refine h.forward hdown hmod hplain ?_
    split
    · exact .inr rfl
    · exact .inl rfl
  | inert => exact absurd hrole (Key.role_ne_inert hordinary hkey)
  | dual letters =>
    rw [hrole] at hdual
    cases hdual
  | capsWordToggle | sentenceCaseOn | sentenceCaseToggle =>
    rw [hrole] at hmode
    cases hmode

/-- A key that holds no modifier and is not dual goes down. -/
theorem press (h : Follows typist.position editor) (hdown : event.action = .press)
    (hmods : event.mods = ∅) (hkey : event.key.onlyTypes = true)
    (hordinary : ModTap.ofKey? event.key = none) (hmod : event.key.modifier? = none)
    (hdual : event.key.isDual = false) :
    Follows (typist.press event).1.position
      (editor.emitAll (typist.press event).2.outputs) := by
  cases hmode : event.key.role.isModeSwitch with
  | true =>
    obtain ⟨houtputs, -, hposition, -⟩ := typist.press_modeSwitch hmode
    rw [houtputs, hposition]
    exact h
  | false =>
    have htracked : Follows (typist.track event).1.position editor := by
      rw [Typist.track_position]
      exact h
    rw [typist.press_eq hmode]
    exact htracked.typeKey hdown hmods hkey hordinary hmod hdual hmode _

/-- Nothing happens when such a key comes up. -/
theorem release_silent (typist : Typist) (editor : Editor) (hup : event.action = .release)
    (hmod : event.key.modifier? = none) (hdual : event.key.isDual = false) :
    (typist.handle event).1 = typist ∧
      editor.emitAll (typist.handle event).2.outputs = editor := by
  unfold Key.isDual at hdual
  simp only [Typist.handle, hup, Typist.release]
  cases hrole : event.key.role with
  | plain => exact ⟨rfl, Editor.transition_release hmod ∅⟩
  | dual letters =>
    rw [hrole] at hdual
    cases hdual
  | _ => exact ⟨rfl, rfl⟩

end Follows

/-! ## Taps -/

/-- A key that is pressed and let go before anything else, with nothing held. -/
structure Tap where
  key : Key
  down : Nat
  up : Nat
  deriving DecidableEq

namespace Tap

/-- The key goes down. -/
def press (tap : Tap) : KeyEvent :=
  .press tap.key ∅ tap.down

/-- The key comes up. -/
def release (tap : Tap) : KeyEvent :=
  .release tap.key ∅ tap.up

/-- The key goes down and comes up. -/
def events (tap : Tap) : List KeyEvent :=
  [tap.press, tap.release]

/-- What the typist makes of a tap that reaches it. -/
def type (tap : Tap) (typist : Typist) : Typist × List Output :=
  let (typist, down) := typist.handle tap.press
  let (typist, up) := typist.handle tap.release
  (typist, down.outputs ++ up.outputs)

theorem type_eq (tap : Tap) (typist : Typist) :
    tap.type typist = (((typist.press tap.press).1.handle tap.release).1,
      (typist.press tap.press).2.outputs ++
        ((typist.press tap.press).1.handle tap.release).2.outputs) := rfl

/-- The quote-pair key types what the word tracker says. -/
theorem type_quotePair (typist : Typist) (down up : Nat) :
    (Tap.type ⟨.quotePair, down, up⟩ typist).2 = typist.position.quote := by
  rw [type_eq, Typist.press_eq _ rfl]
  show (typist.track (.press .quotePair ∅ down)).1.position.quote ++ [] = _
  rw [List.append_nil, Typist.track_position]

end Tap

namespace Follows

variable {typist : Typist} {editor : Editor} {tap : Tap}

/-- A modifier key is tapped. -/
theorem tap_modifier (h : Follows typist.position editor) {m : Modifier}
    (hmod : tap.key.modifier? = some m) :
    Follows (tap.type typist).1.position (editor.emitAll (tap.type typist).2) := by
  have hrole : tap.key.role = .plain := by
    rw [Key.eq_key_of_modifier? hmod]
    cases m <;> rfl
  obtain ⟨extra, -, houtputs, -, hposition⟩ := @Typist.press_plain tap.press typist hrole
  have hobserved : typist.position.observe tap.press = typist.position := by
    simp [WordPosition.observe, Tap.press, KeyEvent.press, Key.isModifier_of_modifier? hmod]
  have hrelease := @Typist.handle_release_plain tap.release (typist.press tap.press).1 rfl hrole
  have hedit : editor.emitAll [.forward tap.key .press extra, .forward tap.key .release ∅] =
      editor := Editor.emitAll_modifier h.held hmod extra ∅
  rw [tap.type_eq, hrelease, houtputs, hposition, hobserved]
  show Follows typist.position
    (editor.emitAll [.forward tap.key .press extra, .forward tap.key .release ∅])
  rw [hedit]
  exact h

/-- A dual key is tapped: its letters are typed when it comes up. -/
theorem tap_dual (h : Follows typist.position editor) {letters : DualKey}
    (hrole : tap.key.role = .dual letters) :
    Follows (tap.type typist).1.position (editor.emitAll (tap.type typist).2) := by
  obtain ⟨hkey, rfl⟩ := Key.eq_of_dual hrole
  have hletter : tap.key.isLetterClass = true := by
    rw [hkey]
    rfl
  have hobserved : typist.position.observe tap.press = ⟨true⟩ :=
    (typist.position.observe_press rfl (Key.not_isModifier_of_isLetterClass hletter)).trans
      (congrArg WordPosition.mk hletter)
  -- the press types nothing, and its record holds no modifier
  obtain ⟨hsilent, -, hposition, htimers⟩ := @Typist.press_dual tap.press typist _ hrole
  rw [hobserved] at hposition
  obtain ⟨shown, capital, hshown, -, hcases⟩ :=
    (typist.press tap.press).1.resolveDual_cases ⟨.q, .u⟩ tap.release
  have hunheld : shown = ∅ := by
    rw [hshown, htimers]
    show ((((typist.timers.press tap.key _).get? tap.key).map PressRecord.mods).getD _) \ _ = _
    rw [HoldTimers.get?_press_self]
    rfl
  have hmods (upper : Bool) : (if upper then shown ∪ .single .leftShift else shown).hasNonShift =
      false := by
    rw [hunheld]
    cases upper <;> rfl
  -- a hold types the first letter, a tap both
  have hone := h.press_letter (hmods capital) (show Key.q.isLetter = true from rfl)
  have hboth := hone.press_letter (hmods (typist.press tap.press).1.capsWord.active)
    (show Key.u.isLetter = true from rfl)
  rw [tap.type_eq, Typist.handle_release_dual _ rfl hrole, hsilent, List.nil_append]
  rcases hcases with ⟨-, hresolve⟩ | ⟨-, hresolve⟩
  · rw [hresolve]
    show Follows (typist.press tap.press).1.position _
    rw [hposition]
    exact hboth
  · rw [hresolve]
    show Follows (typist.press tap.press).1.position _
    rw [hposition]
    exact hone

/-- A key that reaches the typist is tapped. -/
theorem type (h : Follows typist.position editor) (hkey : tap.key.onlyTypes = true)
    (hordinary : ModTap.ofKey? tap.key = none) :
    Follows (tap.type typist).1.position (editor.emitAll (tap.type typist).2) := by
  cases hmod : tap.key.modifier? with
  | some m => exact h.tap_modifier hmod
  | none =>
    by_cases hdual : tap.key.isDual = true
    · obtain ⟨letters, hrole⟩ : ∃ letters, tap.key.role = .dual letters := by
        unfold Key.isDual at hdual
        split at hdual
        · next letters hrole => exact ⟨letters, hrole⟩
        · cases hdual
      exact h.tap_dual hrole
    · rw [Bool.not_eq_true] at hdual
      have hpress := @h.press _ _ tap.press rfl rfl hkey hordinary hmod hdual
      obtain ⟨htypist, hedit⟩ := @release_silent tap.release
        (typist.press tap.press).1 (editor.emitAll (typist.press tap.press).2.outputs)
        rfl hmod hdual
      rw [tap.type_eq, Editor.emitAll_append, htypist, hedit]
      exact hpress

end Follows

/-! ## The pipeline -/

theorem Key.onlyTypes_tap {key : Key} {modTap : ModTap} (h : ModTap.ofKey? key = some modTap) :
    modTap.tap.onlyTypes = true := by
  cases key <;> cases h <;> rfl

namespace Engine

namespace Rests

variable {engine : Engine} {editor : Editor} {tap : Tap}

/-- A key that is no mod-tap is tapped: it reaches the typist. -/
theorem feedAll_tap_ordinary (h : Rests engine) (hordinary : ModTap.ofKey? tap.key = none) :
    (engine.feedAll tap.events).1 = { engine with typist := (tap.type engine.typist).1 } ∧
      (engine.feedAll tap.events).2.outputs = (tap.type engine.typist).2 := by
  have hkeys : ∀ event ∈ tap.events, ModTap.ofKey? event.key = none := by
    simp [Tap.events, Tap.press, Tap.release, KeyEvent.press, KeyEvent.release, hordinary]
  rw [h.feedAll_ordinary hkeys]
  exact ⟨rfl, congrArg (_ ++ ·) (List.append_nil _)⟩

/-- A mod-tap is tapped: it types its letter, or does no more than to hold and lift
its modifier. -/
theorem feedAll_modTap_tap (h : Rests engine) {modTap : ModTap}
    (hkey : ModTap.ofKey? tap.key = some modTap) :
    engine.feedAll tap.events = engine.feedAll (Tap.events { tap with key := modTap.tap }) ∨
      (engine.feedAll tap.events).1 = engine ∧ (engine.feedAll tap.events).2.outputs =
        [.forward modTap.modifier.key .press ∅, .forward modTap.modifier.key .release ∅] := by
  have hheld : (engine.modTaps.held.any fun other => other.key == modTap.key) = false := by
    rw [h.held]
    rfl
  have htold (action : Action) :
      engine.told modTap action = { outputs := [.forward modTap.modifier.key action ∅] } := by
    unfold told ModTapStage.holdsModifier
    rw [h.held]
    rfl
  by_cases hover : HeldOver engine.modTaps.timers.term tap.down [] tap.release
  · right
    have hhold := @feedAll_of_heldOver engine h.idle h.free tap.key modTap hkey hheld [] (by simp)
      ∅ ∅ tap.down tap.up hover
    rw [htold, htold] at hhold
    exact ⟨congrArg Prod.fst hhold, congrArg (fun run => run.2.outputs) hhold⟩
  · left
    exact @feedAll_of_not_heldOver engine h.idle h.free tap.key modTap hkey [] (by simp)
      ∅ ∅ tap.down tap.up hover

/-- **Every tap leaves the engine at rest and the tracker right.** -/
theorem feedAll_tap (h : Rests engine) (hfollows : Follows engine.typist.position editor)
    (hkey : tap.key.onlyTypes = true) :
    Rests (engine.feedAll tap.events).1 ∧
      Follows (engine.feedAll tap.events).1.typist.position
        (editor.emitAll (engine.feedAll tap.events).2.outputs) := by
  have hordinary (tap : Tap) (hnone : ModTap.ofKey? tap.key = none)
      (hkey : tap.key.onlyTypes = true) :
      Rests (engine.feedAll tap.events).1 ∧
        Follows (engine.feedAll tap.events).1.typist.position
          (editor.emitAll (engine.feedAll tap.events).2.outputs) := by
    obtain ⟨hengine, houtputs⟩ := h.feedAll_tap_ordinary hnone
    rw [hengine, houtputs]
    exact ⟨⟨h.idle, h.free, h.held⟩, hfollows.type hkey hnone⟩
  cases hmodTap : ModTap.ofKey? tap.key with
  | none => exact hordinary tap hmodTap hkey
  | some modTap =>
    rcases h.feedAll_modTap_tap hmodTap with htap | ⟨hengine, houtputs⟩
    · rw [htap]
      exact hordinary _ (ModTap.ofKey?_tap hmodTap) (Key.onlyTypes_tap hmodTap)
    · rw [hengine, houtputs,
        Editor.emitAll_modifier hfollows.held (Key.modifier?_key modTap.modifier)]
      exact ⟨h, hfollows⟩

/-- So does every sequence of taps. -/
theorem feedAll_taps (h : Rests engine) (hfollows : Follows engine.typist.position editor)
    {taps : List Tap} (hkeys : ∀ tap ∈ taps, tap.key.onlyTypes = true) :
    Rests (engine.feedAll (taps.flatMap Tap.events)).1 ∧
      Follows (engine.feedAll (taps.flatMap Tap.events)).1.typist.position
        (editor.emitAll (engine.feedAll (taps.flatMap Tap.events)).2.outputs) := by
  induction taps generalizing engine editor with
  | nil => exact ⟨h, hfollows⟩
  | cons tap rest ih =>
    obtain ⟨hkey, hkeys⟩ := List.forall_mem_cons.mp hkeys
    obtain ⟨hrests, hnext⟩ := h.feedAll_tap hfollows hkey
    rw [List.flatMap_cons, feedAll_append, Response.outputs_append, Editor.emitAll_append]
    exact ih hrests hnext hkeys

end Rests

/-- **After any taps the word tracker is right.** Whatever keys are tapped that neither
move the cursor nor delete, at whatever times, the tracker is inside a word if and only
if the character before the cursor is a letter. So the quote-pair key types an apostrophe
just behind a letter, and a pair of quotes elsewhere. -/
theorem feedAll_withinWord {settings : EngineSettings} (hcombos : settings.combos = [])
    {taps : List Tap} (hkeys : ∀ tap ∈ taps, tap.key.onlyTypes = true) (down up : Nat) :
    let run := (new settings).feedAll (taps.flatMap Tap.events)
    let editor := Editor.emitAll {} run.2.outputs
    run.1.typist.position.withinWord = editor.afterLetter ∧
      (run.1.feedAll (Tap.events ⟨.quotePair, down, up⟩)).2.outputs =
        if editor.afterLetter then [.tap .apostrophe ∅] else [.text "\"\"" false, .tap .left ∅] := by
  intro run editor
  have hfresh := rests_new hcombos
  have hempty : Follows (new settings).typist.position {} := ⟨Nat.le_refl 0, rfl, rfl⟩
  obtain ⟨hrests, hfollows⟩ := hfresh.feedAll_taps hempty hkeys
  obtain ⟨-, houtputs⟩ := @Rests.feedAll_tap_ordinary run.1 ⟨.quotePair, down, up⟩ hrests rfl
  refine ⟨hfollows.word, ?_⟩
  rw [houtputs, Tap.type_quotePair, ← hfollows.word]
  rfl

/-- Behind the i that a tap of its mod-tap types there is an apostrophe. -/
theorem feedAll_withinWord_apostrophe :
    let taps : List Tap := [⟨.homeI, 0, 10⟩]
    let run := (new {}).feedAll (taps.flatMap Tap.events)
    (∀ tap ∈ taps, tap.key.onlyTypes = true) ∧
      (Editor.emitAll {} run.2.outputs).afterLetter = true ∧
      (run.1.feedAll (Tap.events ⟨.quotePair, 20, 30⟩)).2.outputs = [.tap .apostrophe ∅] := by
  intro taps run
  have hkeys : ∀ tap ∈ taps, tap.key.onlyTypes = true := by decide
  have hletter : (Editor.emitAll {} run.2.outputs).afterLetter = true := by cbv
  refine ⟨hkeys, hletter, ?_⟩
  rw [(@feedAll_withinWord {} rfl taps hkeys 20 30).2, if_pos hletter]

end Engine

end Keymap
