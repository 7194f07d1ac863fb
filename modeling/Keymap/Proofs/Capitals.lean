import Keymap.Proofs.Editing
import Keymap.Proofs.Rewriting

/-!
# Capitals of sentences

On plain typing the whole pipeline is a function of texts: it copies what is typed
and makes a capital of the first letter after the end of a sentence.

- `Text.capitalDue`: the last character that counts ends a sentence.
- `Text.capitalised`: **the reference**, a function of the typed characters.
- `classify_of_glyph`: the tracker classes a key by its character.
- `Typing`: the invariant between the typist, the editor and the characters typed
  so far. `Typing.press` and `Typing.release` keep it, and so does every run.
- `Engine.feedAll_capitalises`: **typed text is what the reference makes of it**.
-/

namespace Keymap

/-! ## The reference -/

namespace Text

/-- A space or a quote: it does not count in the search for the end of a sentence. -/
def isTransparent (c : Char) : Bool :=
  c == ' ' || c == '\x27' || c == '\x22'

/-- A character that ends a sentence. -/
def isTerminator (c : Char) : Bool :=
  c == '.' || c == '!' || c == '?'

/-- The last character that counts exists and ends a sentence. -/
def capitalDue (before : List Char) : Bool :=
  ((before.filter fun c => !isTransparent c).getLast?.map isTerminator).getD false

/-- The typed characters, with a capital for each letter before which one is due. -/
def capitalised (typed : List Char) : List Char :=
  typed.mapIdx fun i c => if capitalDue (typed.take i) then c.toUpper else c

theorem capitalDue_concat (before : List Char) (c : Char) :
    capitalDue (before ++ [c]) =
      if isTransparent c then capitalDue before else isTerminator c := by
  unfold capitalDue
  rw [List.filter_append]
  by_cases h : isTransparent c = true
  · simp [h]
  · simp [h]

/-- One more character changes nothing before it. -/
theorem capitalised_concat (typed : List Char) (c : Char) :
    capitalised (typed ++ [c]) =
      capitalised typed ++ [if capitalDue typed then c.toUpper else c] := by
  unfold capitalised
  rw [List.mapIdx_concat, List.take_left]
  congr 1
  refine List.mapIdx_eq_mapIdx_iff.mpr fun i hi => ?_
  rw [List.take_append_of_le_length (Nat.le_of_lt hi)]

end Text

open Text

/-! ## The tracker -/

namespace SentenceClass

/-- Whether a capital is due after an event of a class. -/
def due (before : Bool) : SentenceClass → Bool
  | terminator => true
  | ignore | space | quote => before
  | letter | reset => false

/-- The class of a typed character. -/
def ofChar (c : Char) : SentenceClass :=
  if isTransparent c then if c = ' ' then space else quote
  else if isTerminator c then terminator
  else if c.isLower then letter
  else reset

/-- The classes tell where a capital is due. -/
theorem due_ofChar (typed : List Char) (c : Char) :
    (ofChar c).due (capitalDue typed) = capitalDue (typed ++ [c]) := by
  rw [capitalDue_concat]
  unfold ofChar
  cases isTransparent c with
  | true => by_cases hspace : c = ' ' <;> simp [hspace, due]
  | false =>
    cases isTerminator c with
    | true => rfl
    | false => by_cases hlower : c.isLower = true <;> simp [hlower, due]

end SentenceClass

/-- While the tracker is on, it asks for a capital where one is due. -/
theorem SentenceCase.onEvent_of_enabled {tracker : SentenceCase} (event : KeyEvent)
    (henabled : tracker.enabled = true) :
    (tracker.onEvent event).1.enabled = true ∧
      (tracker.onEvent event).1.isPrimed = (classify event).due tracker.isPrimed ∧
      (tracker.onEvent event).2 = (tracker.isPrimed && classify event == .letter) := by
  unfold onEvent
  rw [if_pos henabled]
  cases classify event <;> simp [henabled, SentenceClass.due, isPrimed]

/-! ## Keys that type a character -/

section

variable {key : Key} {c : Char}

/-- With nothing held, the tracker classes a key by its character. -/
theorem classify_of_glyph (hglyph : key.char? false = some c) (time : Nat) :
    SentenceCase.classify (.press key ∅ time) = .ofChar c := by
  cases key <;> cases hglyph <;> rfl

/-- A key that types a character goes to the host. -/
theorem role_of_glyph (hglyph : key.char? false = some c) : key.role = .plain := by
  cases key <;> cases hglyph <;> rfl

theorem ofKey?_of_glyph (hglyph : key.char? false = some c) : ModTap.ofKey? key = none := by
  cases key <;> cases hglyph <;> rfl

/-- A capital is the shifted character of a letter; nothing else has one. -/
theorem char?_of_glyph (hglyph : key.char? false = some c) (capital : Bool) :
    key.char? (capital && SentenceClass.ofChar c == .letter) =
      some (if capital then c.toUpper else c) := by
  cases capital with
  | false => exact hglyph
  | true => cases key <;> cases hglyph <;> rfl

end

/-! ## One event -/

/-- The characters of the keys that go down. -/
def typedBy (events : List KeyEvent) : List Char :=
  (events.filter KeyEvent.isPress).filterMap fun event => event.key.char? false

/-- **The invariant** of plain typing: the trackers know what is due, and the editor
shows what the reference makes of the characters typed so far. -/
structure Typing (typist : Typist) (editor : Editor) (typed : List Char) : Prop where
  capsWord : typist.capsWord.active = false
  enabled : typist.sentence.enabled = true
  primed : typist.sentence.isPrimed = capitalDue typed
  chars : editor.chars = capitalised typed
  /-- The cursor is at the end. -/
  cursor : editor.cursor = editor.chars.length
  held : editor.held = ∅

namespace Typing

variable {typist : Typist} {editor : Editor} {typed : List Char} {event : KeyEvent} {c : Char}

/-- While caps word is off, only sentence case has something to say about a press
with nothing held. -/
theorem track (h : Typing typist editor typed) (hmods : event.mods = ∅) :
    typist.track event =
      ({ typist with sentence := (typist.sentence.onEvent event).1 },
        { weakShift := false
          case := { shifted := false, capitalise := (typist.sentence.onEvent event).2 } },
        []) := by
  have hshifts : Typist.bothShiftsDown event = false := by
    unfold Typist.bothShiftsDown
    rw [hmods]
    split <;> rfl
  simp [Typist.track, Typist.watchShifts, Typist.gate, CapsWord.onPress, hshifts, h.capsWord]

/-- A press is sent on, shifted if sentence case asks for a capital. -/
theorem handle_press (h : Typing typist editor typed) (hmods : event.mods = ∅)
    (hdown : event.action = .press) (hglyph : event.key.char? false = some c) :
    (typist.handle event).1.capsWord = typist.capsWord ∧
      (typist.handle event).1.sentence = (typist.sentence.onEvent event).1 ∧
      (typist.handle event).2.outputs = [.forward event.key .press
        (if (typist.sentence.onEvent event).2 then .single .leftShift else ∅)] := by
  simp only [Typist.handle, hdown, Typist.press, role_of_glyph hglyph, h.track hmods,
    Typist.typeKey, Typist.forward, Bool.false_or, and_self]

/-- The host types the character, or its shifted character, at the end. -/
theorem emit_press (h : Typing typist editor typed) (hglyph : event.key.char? false = some c)
    {shift : Bool} {shown : Char} (hshown : event.key.char? shift = some shown) :
    editor.emitAll [.forward event.key .press (if shift then .single .leftShift else ∅)] =
      { editor with chars := editor.chars ++ [shown], cursor := editor.cursor + 1 } := by
  show editor.transition event.key .press _ = _
  rw [← Editor.insert_at_end h.cursor,
    Editor.transition_press (Key.modifier?_of_char? hglyph), h.held]
  cases shift with
  | false => exact Editor.press_glyph rfl hshown
  | true => exact Editor.press_glyph rfl hshown

/-- A key that types a character goes down. -/
theorem press (h : Typing typist editor typed) (hmods : event.mods = ∅)
    (hdown : event.action = .press) (hglyph : event.key.char? false = some c) :
    Typing (typist.handle event).1 (editor.emitAll (typist.handle event).2.outputs)
      (typed ++ [c]) := by
  obtain ⟨hcapsWord, hsentence, houtputs⟩ := h.handle_press hmods hdown hglyph
  obtain ⟨henabled, hprimed, hcapital⟩ := SentenceCase.onEvent_of_enabled event h.enabled
  have hclass : SentenceCase.classify event = .ofChar c := by
    rw [← classify_of_glyph hglyph event.time, ← hmods, KeyEvent.press, ← hdown]
  rw [hclass, h.primed] at hprimed hcapital
  rw [houtputs, hcapital, h.emit_press hglyph (char?_of_glyph hglyph (capitalDue typed))]
  constructor
  case capsWord => rw [hcapsWord, h.capsWord]
  case enabled => rw [hsentence, henabled]
  case primed => rw [hsentence, hprimed, SentenceClass.due_ofChar]
  case chars => rw [capitalised_concat, h.chars]
  case cursor => simp [h.cursor]
  case held => exact h.held

/-- A key that types a character comes up. -/
theorem release (h : Typing typist editor typed) (hup : event.action = .release)
    (hglyph : event.key.char? false = some c) :
    Typing (typist.handle event).1 (editor.emitAll (typist.handle event).2.outputs) typed := by
  have hhandle : typist.handle event =
      (typist, { outputs := [.forward event.key .release ∅] }) := by
    simp only [Typist.handle, hup, Typist.release, role_of_glyph hglyph]
  have hedit : editor.emitAll [.forward event.key .release ∅] = editor :=
    Editor.transition_release (Key.modifier?_of_char? hglyph) ∅
  rw [hhandle]
  show Typing typist (editor.emitAll [.forward event.key .release ∅]) typed
  rwa [hedit]

/-- An event of a key that types a character. -/
theorem handle (h : Typing typist editor typed) (hmods : event.mods = ∅)
    (hglyph : (event.key.char? false).isSome) :
    Typing (typist.handle event).1 (editor.emitAll (typist.handle event).2.outputs)
      (typed ++ typedBy [event]) := by
  obtain ⟨c, hglyph⟩ := Option.isSome_iff_exists.mp hglyph
  cases haction : event.action with
  | press =>
    have htyped : typedBy [event] = [c] := by
      simp [typedBy, KeyEvent.isPress, haction, hglyph]
    rw [htyped]
    exact h.press hmods haction hglyph
  | release =>
    have htyped : typedBy [event] = [] := by
      simp [typedBy, KeyEvent.isPress, haction]
    rw [htyped, List.append_nil]
    exact h.release haction hglyph

/-- **Every run of such events keeps the invariant.** -/
theorem settleAll (h : Typing typist editor typed) {events : List KeyEvent}
    (hmods : ∀ event ∈ events, event.mods = ∅)
    (hglyphs : ∀ event ∈ events, (event.key.char? false).isSome) :
    let settled := Engine.settleAll typist (events.map .pass)
    Typing settled.1 (editor.emitAll settled.2.outputs) (typed ++ typedBy events) := by
  induction events generalizing typist editor typed with
  | nil => simpa [Engine.settleAll, typedBy, Editor.emitAll] using h
  | cons event rest ih =>
    obtain ⟨hmod, hmods⟩ := List.forall_mem_cons.mp hmods
    obtain ⟨hglyph, hglyphs⟩ := List.forall_mem_cons.mp hglyphs
    have hrest := ih (h.handle hmod hglyph) hmods hglyphs
    have hsplit : typedBy (event :: rest) = typedBy [event] ++ typedBy rest := by
      unfold typedBy
      rw [← List.filterMap_append, ← List.filter_append]
      rfl
    show Typing (Engine.settleAll (typist.handle event).1 (rest.map .pass)).1
      (editor.emitAll ((typist.handle event).2 ++
        (Engine.settleAll (typist.handle event).1 (rest.map .pass)).2).outputs)
      (typed ++ typedBy (event :: rest))
    unfold Editor.emitAll at hrest ⊢
    rw [Response.outputs_append, List.foldl_append, hsplit, ← List.append_assoc]
    exact hrest

end Typing

/-! ## The pipeline -/

namespace Engine

/-- **Typed text is what the reference makes of it.** Whatever plain keys go down and
come up, in whatever order, the host shows their characters with a capital for each
letter that begins a sentence. -/
theorem feedAll_capitalises {settings : EngineSettings} (hcombos : settings.combos = [])
    (hsentence : settings.sentenceCase = true) {events : List KeyEvent}
    (hmods : ∀ event ∈ events, event.mods = ∅)
    (hglyphs : ∀ event ∈ events, (event.key.char? false).isSome) :
    (Editor.emitAll {} ((new settings).feedAll events).2.outputs).text =
      String.ofList (capitalised (typedBy events)) := by
  -- none of these keys is in a chord or a mod-tap, so the typist sees what is fed
  have hidle : (new settings).chords.Idle := ⟨hcombos, rfl, rfl⟩
  have hfree : ModTapStage.Free (new settings).modTaps := ⟨rfl, rfl⟩
  have hordinary : ∀ event ∈ events, ModTap.ofKey? event.key = none := by
    intro event hmem
    obtain ⟨c, hglyph⟩ := Option.isSome_iff_exists.mp (hglyphs event hmem)
    exact ofKey?_of_glyph hglyph
  have hpass : (events.map fun event => StageOutput.pass (event.withMods ∅)) =
      events.map .pass := by
    refine List.map_congr_left fun event hmem => congrArg StageOutput.pass ?_
    unfold KeyEvent.withMods
    rw [hmods event hmem, ModMask.union_self, ← hmods event hmem]
  have hfresh : Typing (new settings).typist {} [] :=
    ⟨rfl, hsentence, rfl, rfl, rfl, rfl⟩
  have htyping := hfresh.settleAll hmods hglyphs
  rw [feedAll_eq hidle, ModTapStage.takeAll_ordinary hfree hordinary]
  show String.ofList (Editor.emitAll {} (settleAll (new settings).typist
    (events.map fun event => .pass (event.withMods ∅))).2.outputs).chars = _
  rw [hpass, htyping.chars]
  rfl

/-- The O that begins the second sentence is a capital; the keys overlap. -/
theorem feedAll_capitalises_hi_ok :
    let events : List KeyEvent :=
      [.press .h ∅ 0, .press .i ∅ 10, .release .h ∅ 20, .press .dot ∅ 30, .release .i ∅ 40,
        .press .space ∅ 50, .press .doubleQuote ∅ 60, .press .o ∅ 70, .press .k ∅ 80]
    (∀ event ∈ events, event.mods = ∅) ∧
      (∀ event ∈ events, (event.key.char? false).isSome) ∧
      (Editor.emitAll {} ((new {}).feedAll events).2.outputs).text = "hi. \"Ok" := by
  intro events
  have hmods : ∀ event ∈ events, event.mods = ∅ := by decide
  have hglyphs : ∀ event ∈ events, (event.key.char? false).isSome := by decide
  exact ⟨hmods, hglyphs, (feedAll_capitalises rfl rfl hmods hglyphs).trans rfl⟩

end Engine

end Keymap
