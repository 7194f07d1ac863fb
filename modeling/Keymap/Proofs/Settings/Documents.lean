import Keymap.Proofs.Attempts
import Keymap.Proofs.Names
import Keymap.Settings.Document

/-!
# Which settings a document stands for

A document is read entry by entry, and what was read is checked only when all of it
is there: an entry that cannot be read is reported before any time out of its range.

- `Text.trimChars_padded`: blanks around a text are trimmed away.
- `Spells`, `Denotes`: a text is the canonical name of a key, or any name of it, with
  blanks around.
- `ChordEntry.Gives`: the names in an entry stand for the keys of a chord.
- `ChordEntry.toChord_eq_ok_iff`, `ChordEntry.toChord_eq_error_iff`: what an entry is read
  as, and why it is not.
- `Document.Describes`: the settings that a document describes, with the default for
  whatever it leaves out. `Document.StatesAll`: one that leaves nothing out.
- `Document.toSettings_roundTrip`: **a document that states all of some settings gives them
  or the problem of the check**; a document gives settings exactly if it describes them and
  they pass, and else the problem of its first entry that cannot be read, or that of the
  check.
-/

namespace Keymap

namespace Text

/-- Blanks around a text without blanks are trimmed away. -/
theorem trimChars_padded {front cs back : List Char} (hfront : ∀ c ∈ front, isBlank c = true)
    (hback : ∀ c ∈ back, isBlank c = true) (hne : cs ≠ [])
    (hcs : ∀ c ∈ cs, isBlank c = false) : trimChars (front ++ cs ++ back) = cs := by
  have hstart : (cs ++ back).dropWhile isBlank = cs ++ back := by
    cases cs with
    | nil => exact absurd rfl hne
    | cons c rest =>
      exact List.dropWhile_cons_of_neg (Bool.eq_false_iff.mp (hcs c List.mem_cons_self))
  have hends : cs.reverse.dropWhile isBlank = cs.reverse := by
    cases hreverse : cs.reverse with
    | nil => rfl
    | cons c rest =>
      have hmem : c ∈ cs.reverse := hreverse ▸ List.mem_cons_self
      exact List.dropWhile_cons_of_neg (Bool.eq_false_iff.mp (hcs c (List.mem_reverse.mp hmem)))
  unfold trimChars
  rw [List.append_assoc, List.dropWhile_append_of_pos hfront, hstart, List.reverse_append,
    List.dropWhile_append_of_pos fun c hc => hback c (List.mem_reverse.mp hc), hends,
    List.reverse_reverse]

end Text

namespace Chord

/-- The two keys of a chord and its output. -/
def toKeys (chord : Chord) : List Key :=
  [chord.first, chord.second, chord.output]

theorem toKeys_injective : Function.Injective toKeys := by
  rintro ⟨first, second, output⟩ ⟨first', second', output'⟩ h
  simp only [toKeys, List.cons.injEq, and_true] at h
  obtain ⟨rfl, rfl, rfl⟩ := h
  rfl

end Chord

namespace Settings

open Text

/-! ## Names -/

/-- A text is the canonical name of a key, with any blanks around it. -/
def Spells (text : String) (key : Key) : Prop :=
  ∃ front back : List Char, (∀ c ∈ front, isBlank c = true) ∧ (∀ c ∈ back, isBlank c = true) ∧
    text.toList = front ++ key.name.toList ++ back

/-- A text is a name of a key in any letter case, with any blanks around it. -/
def Denotes (text : String) (key : Key) : Prop :=
  Key.ofName? (trim text) = some key

theorem spells_name (key : Key) : Spells key.name key :=
  ⟨[], [], List.forall_mem_nil _, List.forall_mem_nil _, (List.append_nil _).symm⟩

theorem Spells.denotes {text : String} {key : Key} (h : Spells text key) : Denotes text key := by
  obtain ⟨front, back, hfront, hback, htext⟩ := h
  obtain ⟨hne, hchars⟩ := key.name_wellFormed
  have htrim : trim text = key.name := by
    unfold trim
    rw [htext, trimChars_padded hfront hback hne fun c hc => isBlank_of_isNameChar (hchars c hc),
      String.ofList_toList]
  unfold Denotes
  rw [htrim, key.ofName?_name]

theorem readKey_eq_ok_iff {text : String} {key : Key} :
    readKey text = .ok key ↔ Denotes text key := by
  unfold readKey Denotes
  cases Key.ofName? (trim text) with
  | none => exact iff_of_false nofun nofun
  | some found =>
    constructor
    · intro h
      exact congrArg some (Except.ok.inj h)
    · intro h
      exact congrArg Except.ok (Option.some.inj h)

theorem readKey_eq_error_iff {text : String} {problem : Problem} :
    readKey text = .error problem ↔
      Key.ofName? (trim text) = none ∧ problem = .unknownKey (trim text) := by
  unfold readKey
  cases Key.ofName? (trim text) with
  | none =>
    rw [and_iff_right rfl]
    constructor
    · intro h
      exact (Except.error.inj h).symm
    · rintro rfl
      rfl
  | some found => exact iff_of_false nofun fun h => nomatch h.1

/-! ## Entries -/

namespace ChordEntry

/-- The names in an entry, in the order in which they are read. -/
def names (entry : ChordEntry) : List String :=
  entry.keys ++ [entry.output]

/-- The names in an entry stand, one for one, for the two keys of a chord and its output. -/
def Gives (means : String → Key → Prop) (entry : ChordEntry) (chord : Chord) : Prop :=
  List.Forall₂ means entry.names chord.toKeys

/-- Why an entry cannot be read: it has some other number of keys than two, or else the
first of its names that is none. -/
inductive Unreadable (entry : ChordEntry) : Problem → Prop where
  | keyCount (other : entry.keys.length ≠ 2) :
      Unreadable entry (.chord (.keyCount entry.keys.length))
  | unknownKey {known : List String} {name : String} {more : List String}
      (two : entry.keys.length = 2) (split : entry.names = known ++ name :: more)
      (earlier : ∀ text ∈ known, ∃ key, Denotes text key)
      (unknown : Key.ofName? (trim name) = none) :
      Unreadable entry (.unknownKey (trim name))

variable {entry : ChordEntry} {chord : Chord} {problem : Problem}

theorem Gives.mono {means means' : String → Key → Prop}
    (himp : ∀ text key, means text key → means' text key) (h : entry.Gives means chord) :
    entry.Gives means' chord :=
  List.Forall₂.imp himp h

theorem Gives.length_keys {means : String → Key → Prop} (h : entry.Gives means chord) :
    entry.keys.length = 2 := by
  have hlength := List.Forall₂.length_eq h
  simpa [names, Chord.toKeys] using hlength

/-- An entry of two keys is read name by name. -/
theorem toChord_map (h : entry.keys.length = 2) :
    entry.toChord.map Chord.toKeys = entry.names.mapM readKey := by
  obtain ⟨keys, output⟩ := entry
  obtain ⟨first, second, rfl⟩ := List.length_eq_two.mp h
  have hnames : names ⟨[first, second], output⟩ = [first, second, output] := rfl
  rw [hnames, List.mapM_cons, List.mapM_cons, List.mapM_cons, List.mapM_nil]
  unfold toChord
  dsimp only
  cases readKey first with
  | error problem => rfl
  | ok one =>
    cases readKey second with
    | error problem => rfl
    | ok other =>
      cases readKey output with
      | error problem => rfl
      | ok key => rfl

/-- An entry of any other number of keys is refused. -/
theorem toChord_of_length_ne (h : entry.keys.length ≠ 2) :
    entry.toChord = .error (.chord (.keyCount entry.keys.length)) := by
  unfold toChord
  split
  · next first second hkeys =>
    rw [hkeys] at h
    exact absurd rfl h
  · rfl

/-- What an entry is read as. -/
theorem toChord_eq_ok_iff : entry.toChord = .ok chord ↔ entry.Gives Denotes chord := by
  by_cases htwo : entry.keys.length = 2
  · rw [← map_eq_ok_iff Chord.toKeys_injective, toChord_map htwo, mapM_eq_ok_iff]
    simp only [readKey_eq_ok_iff]
    rfl
  · rw [toChord_of_length_ne htwo]
    exact iff_of_false nofun fun h => htwo h.length_keys

/-- Why an entry is not read. -/
theorem toChord_eq_error_iff : entry.toChord = .error problem ↔ entry.Unreadable problem := by
  by_cases htwo : entry.keys.length = 2
  · rw [← @map_eq_error_iff _ _ _ entry.toChord, toChord_map htwo, mapM_eq_error_iff]
    simp only [readKey_eq_ok_iff, readKey_eq_error_iff]
    constructor
    · rintro ⟨known, name, more, hsplit, hknown, hname, rfl⟩
      exact .unknownKey htwo hsplit hknown hname
    · intro h
      cases h with
      | keyCount hother => exact absurd htwo hother
      | unknownKey _ hsplit hknown hname => exact ⟨_, _, _, hsplit, hknown, hname, rfl⟩
  · rw [toChord_of_length_ne htwo]
    constructor
    · intro h
      rw [← Except.error.inj h]
      exact .keyCount htwo
    · intro h
      cases h with
      | keyCount _ => rfl
      | unknownKey two _ _ _ => exact absurd two htwo

end ChordEntry

/-! ## Documents -/

namespace Document

/-- A document describes settings: what it states is as in the settings, what it leaves out
is as by default, and its entries give the chords, one for one and in order. -/
structure Describes (document : Document) (settings : Settings) : Prop where
  tappingTerm : settings.tappingTerm =
    (document.timing.bind Timing.tappingTerm).getD ({} : Settings).tappingTerm
  comboTerm : settings.comboTerm =
    (document.timing.bind Timing.comboTerm).getD ({} : Settings).comboTerm
  sendDelay : settings.sendDelay =
    (document.timing.bind Timing.sendDelay).getD ({} : Settings).sendDelay
  bothShiftsToggle : settings.bothShiftsToggle =
    (document.capsWord.bind Switch.on).getD ({} : Settings).bothShiftsToggle
  sentenceCase : settings.sentenceCase =
    (document.sentenceCase.bind Switch.on).getD ({} : Settings).sentenceCase
  chords : List.Forall₂ (ChordEntry.Gives Denotes) document.chords settings.combos

/-- A document states all of some settings, and the chords by the canonical names of their
keys, with any blanks around the names. -/
structure StatesAll (document : Document) (settings : Settings) : Prop where
  timing : document.timing =
    some ⟨some settings.tappingTerm, some settings.comboTerm, some settings.sendDelay⟩
  capsWord : document.capsWord = some ⟨some settings.bothShiftsToggle⟩
  sentenceCase : document.sentenceCase = some ⟨some settings.sentenceCase⟩
  chords : List.Forall₂ (ChordEntry.Gives Spells) document.chords settings.combos

/-- The document that states all of some settings, without blanks. -/
def ofSettings (settings : Settings) : Document where
  timing := some ⟨some settings.tappingTerm, some settings.comboTerm, some settings.sendDelay⟩
  capsWord := some ⟨some settings.bothShiftsToggle⟩
  sentenceCase := some ⟨some settings.sentenceCase⟩
  chords := settings.combos.map fun chord =>
    ⟨[chord.first.name, chord.second.name], chord.output.name⟩

/-- The first entry that cannot be read, and why. -/
def Unreadable (document : Document) (problem : Problem) : Prop :=
  ∃ front entry back, document.chords = front ++ entry :: back ∧
    (∀ earlier ∈ front, ∃ chord, earlier.Gives Denotes chord) ∧ entry.Unreadable problem

variable {document : Document} {settings : Settings} {problem : Problem}

theorem statesAll_ofSettings (settings : Settings) : (ofSettings settings).StatesAll settings where
  timing := rfl
  capsWord := rfl
  sentenceCase := rfl
  chords := by
    show List.Forall₂ _ (settings.combos.map _) settings.combos
    rw [List.forall₂_map_left_iff]
    exact List.forall₂_same.mpr fun chord _ =>
      .cons (spells_name _) (.cons (spells_name _) (.cons (spells_name _) .nil))

theorem StatesAll.describes (h : document.StatesAll settings) : document.Describes settings where
  tappingTerm := by rw [h.timing]; rfl
  comboTerm := by rw [h.timing]; rfl
  sendDelay := by rw [h.timing]; rfl
  bothShiftsToggle := by rw [h.capsWord]; rfl
  sentenceCase := by rw [h.sentenceCase]; rfl
  chords := h.chords.imp fun _ _ => ChordEntry.Gives.mono fun _ _ => Spells.denotes

theorem unchecked_eq_ok_iff : document.unchecked = .ok settings ↔ document.Describes settings := by
  unfold unchecked
  rw [bind_eq_ok]
  simp only [mapM_eq_ok_iff, ChordEntry.toChord_eq_ok_iff]
  constructor
  · rintro ⟨chords, hchords, h⟩
    obtain rfl := Except.ok.inj h
    exact ⟨rfl, rfl, rfl, rfl, rfl, hchords⟩
  · intro h
    refine ⟨settings.combos, h.chords, congrArg Except.ok ?_⟩
    obtain ⟨⟨_, _, _, _, combos⟩, _⟩ := settings
    obtain ⟨rfl, rfl, rfl, rfl, rfl, -⟩ := h
    rfl

theorem unchecked_eq_error_iff :
    document.unchecked = .error problem ↔ document.Unreadable problem := by
  unfold unchecked Unreadable
  rw [bind_eq_error, mapM_eq_error_iff]
  simp only [ChordEntry.toChord_eq_ok_iff, ChordEntry.toChord_eq_error_iff]
  constructor
  · rintro (h | ⟨chords, -, h⟩)
    · exact h
    · exact nomatch h
  · exact .inl

/-- Settings that are described come out of the check as they are, or not at all. -/
theorem Describes.toSettings_eq (h : document.Describes settings) :
    document.toSettings = settings.check.map fun _ => settings := by
  unfold toSettings
  rw [unchecked_eq_ok_iff.mpr h]
  show (settings.check >>= fun _ => .ok settings) = _
  cases settings.check with
  | error problem => rfl
  | ok done => rfl

/-- A document gives settings exactly if it describes them and they pass the check. -/
theorem toSettings_eq_ok_iff :
    document.toSettings = .ok settings ↔
      document.Describes settings ∧ settings.check = .ok () := by
  unfold toSettings
  rw [bind_eq_ok]
  simp only [unchecked_eq_ok_iff, bind_eq_ok]
  constructor
  · rintro ⟨settings', hdescribes, ⟨⟩, hcheck, h⟩
    obtain rfl := Except.ok.inj h
    exact ⟨hdescribes, hcheck⟩
  · rintro ⟨hdescribes, hcheck⟩
    exact ⟨settings, hdescribes, (), hcheck, rfl⟩

/-- A document is refused for its first entry that cannot be read, or for what the check
finds. -/
theorem toSettings_eq_error_iff :
    document.toSettings = .error problem ↔
      document.Unreadable problem ∨
        ∃ settings, document.Describes settings ∧ settings.check = .error problem := by
  unfold toSettings
  rw [bind_eq_error]
  simp only [unchecked_eq_ok_iff, unchecked_eq_error_iff, bind_eq_error]
  constructor
  · rintro (h | ⟨settings, hdescribes, hcheck | ⟨_, -, h⟩⟩)
    · exact .inl h
    · exact .inr ⟨settings, hdescribes, hcheck⟩
    · exact nomatch h
  · rintro (h | ⟨settings, hdescribes, hcheck⟩)
    · exact .inl h
    · exact .inr ⟨settings, hdescribes, .inl hcheck⟩

/-- **Documents and settings go together.** All of any settings can be stated in a document,
and each document that states it gives just these settings if they pass the check, and just
the problem of the check if they do not. A document gives settings exactly if it describes
them and they pass. Else it gives the problem of its first entry that cannot be read, or, if
there is none, that of the check. -/
theorem toSettings_roundTrip :
    (∀ settings : Settings, (∃ document : Document, document.StatesAll settings) ∧
      ∀ document : Document, document.StatesAll settings →
        document.toSettings = settings.check.map fun _ => settings) ∧
    (∀ (document : Document) (settings : Settings), document.toSettings = .ok settings ↔
      document.Describes settings ∧ settings.check = .ok ()) ∧
    ∀ (document : Document) (problem : Problem), document.toSettings = .error problem ↔
      document.Unreadable problem ∨
        ∃ settings, document.Describes settings ∧ settings.check = .error problem := by
  refine ⟨fun settings => ⟨⟨ofSettings settings, statesAll_ofSettings settings⟩, ?_⟩, ?_, ?_⟩
  · intro document hstates
    exact hstates.describes.toSettings_eq
  · intro document settings
    exact toSettings_eq_ok_iff
  · intro document problem
    exact toSettings_eq_error_iff

/-- Names with blanks of three kinds around them, of keys with shorter names. The chords are
given back, or refused for the last of them, which has no output. -/
theorem toSettings_roundTrip_blanks :
    let timing : Timing := ⟨some 180, some 50, some 5⟩
    let chords : List ChordEntry := [⟨["\tKEY_1", "APOSTROPHE "], "\u3000TAB"⟩]
    let unfinished : ChordEntry := ⟨["L", " M"], "NO"⟩
    let document : Document := ⟨some timing, some ⟨some true⟩, some ⟨some false⟩, chords⟩
    let settings : Settings :=
      { tappingTerm := 180, sendDelay := 5, sentenceCase := false
        combos := [⟨.digit1, .apostrophe, .tab⟩] }
    document.StatesAll settings ∧ document.toSettings = .ok settings ∧
      ({ document with chords := chords ++ [unfinished] } : Document).toSettings =
        .error (.chord (.noOutput 1)) := by
  intro timing chords unfinished document settings
  have hfirst : ChordEntry.Gives Spells ⟨["\tKEY_1", "APOSTROPHE "], "\u3000TAB"⟩
      ⟨.digit1, .apostrophe, .tab⟩ :=
    .cons ⟨['\t'], [], List.forall_mem_singleton.mpr rfl, List.forall_mem_nil _, rfl⟩
      (.cons ⟨[], [' '], List.forall_mem_nil _, List.forall_mem_singleton.mpr rfl, rfl⟩
        (.cons ⟨['\u3000'], [], List.forall_mem_singleton.mpr rfl, List.forall_mem_nil _, rfl⟩
          .nil))
  have hlast : ChordEntry.Gives Spells unfinished ⟨.l, .m, .noKey⟩ :=
    .cons (spells_name .l)
      (.cons ⟨[' '], [], List.forall_mem_singleton.mpr rfl, List.forall_mem_nil _, rfl⟩
        (.cons (spells_name .noKey) .nil))
  have hstates : document.StatesAll settings := ⟨rfl, rfl, rfl, .cons hfirst .nil⟩
  refine ⟨hstates, (toSettings_roundTrip.1 settings).2 document hstates, ?_⟩
  exact (toSettings_roundTrip.1 { settings with combos := settings.combos ++ [⟨.l, .m, .noKey⟩] }).2
    _ ⟨rfl, rfl, rfl, .cons hfirst (.cons hlast .nil)⟩

end Document

end Settings

end Keymap
