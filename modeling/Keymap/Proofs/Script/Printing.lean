import Mathlib
import Keymap.Proofs.Names
import Keymap.Proofs.Script.Parts
import Keymap.Proofs.Script.Timetable
import Keymap.Proofs.Script.Tokens

/-!
# Written scripts are read back

A script is written as phrases: pauses, layer changes and strokes. `parse` reads
every layout of phrases as the timetable of what they say, as long as the clock
stays below 2⁶⁴.

- `Alias`, `StrokePhrase`, `Phrase`: what can be written, with the proof that it
  has a meaning.
- `Phrase.text`, `Phrase.item`: how it is written, and what it says.
- `StrokePhrase.splitParts_text`: a written stroke comes apart where it was put
  together.
- `Phrase.ofToken?_text`: a phrase is read back.
- `parse_of_laid`: a script is read back and gives its timetable.

Keys are written by their canonical names. Some of their other names hold a
separator (`-` is a name of `MINUS`), and of strokes that are written with these
nothing is said here.
-/

namespace Keymap

/-! ## Characters and numbers -/

namespace Text

theorem isDecimalDigit_of_isDigit {c : Char} (h : c.isDigit = true) :
    isDecimalDigit c = true := by
  simp only [Char.isDigit, Bool.and_eq_true, decide_eq_true_eq, UInt32.le_iff_toNat_le] at h
  refine List.any_eq_true.mpr ⟨(0x30, 0x39), List.mem_cons_self, ?_⟩
  exact Bool.and_eq_true_iff.mpr ⟨decide_eq_true h.1, decide_eq_true h.2⟩

theorem isDigit_of_mem_toDigits {n : Nat} {c : Char} (h : c ∈ Nat.toDigits 10 n) :
    c.isDigit = true :=
  Nat.isDigit_of_mem_toDigits (by decide) (by decide) h

theorem decimal?_toDigits (n : Nat) : decimal? (Nat.toDigits 10 n) = some n := by
  have hdigits : (Nat.toDigits 10 n).all Char.isDigit = true :=
    List.all_eq_true.mpr fun _ => isDigit_of_mem_toDigits
  have hempty : (Nat.toDigits 10 n).isEmpty = false :=
    List.isEmpty_eq_false_iff.mpr Nat.toDigits_ne_nil
  rw [decimal?, hempty, hdigits]
  exact congrArg some Nat.ofDigitChars_ten_toDigits

/-- Parts that are joined by a separator come apart again. -/
theorem splitOn_intercalate {sep : Char} {parts : List (List Char)} (hne : parts ≠ [])
    (h : ∀ part ∈ parts, sep ∉ part) : splitOn sep ([sep].intercalate parts) = parts := by
  induction parts with
  | nil => exact absurd rfl hne
  | cons part rest ih =>
    obtain ⟨hpart, hrest⟩ := List.forall_mem_cons.mp h
    cases rest with
    | nil => rw [List.intercalate_singleton, splitOn_of_not_mem hpart]
    | cons next rest =>
      rw [List.intercalate_cons_cons, List.append_assoc, List.singleton_append,
        splitOn_append hpart, ih (List.cons_ne_nil next rest) hrest]

/-- What is joined consists of the parts and the separator. -/
theorem mem_intercalate {sep c : Char} {parts : List (List Char)}
    (h : c ∈ [sep].intercalate parts) : c = sep ∨ ∃ part ∈ parts, c ∈ part := by
  induction parts with
  | nil => exact nomatch h
  | cons part rest ih =>
    cases rest with
    | nil =>
      rw [List.intercalate_singleton] at h
      exact .inr ⟨part, List.mem_cons_self, h⟩
    | cons next rest =>
      rw [List.intercalate_cons_cons, List.append_assoc, List.singleton_append] at h
      rcases List.mem_append.mp h with hpart | hrest
      · exact .inr ⟨part, List.mem_cons_self, hpart⟩
      · rcases List.mem_cons.mp hrest with hsep | hrest
        · exact .inl hsep
        · rcases ih hrest with hsep | ⟨part', hmem, hc⟩
          · exact .inl hsep
          · exact .inr ⟨part', List.mem_cons_of_mem part hmem, hc⟩

end Text

namespace Script

open Text

/-- ASCII characters behind `#` can stand in tokens. -/
theorem isTokenChar_of_ascii {c : Char} (h : 35 < c.toNat) (h' : c.toNat < 127) :
    IsTokenChar c := by
  constructor
  · exact isBlank_of_ascii (by omega) h'
  · rintro rfl
    exact absurd h (by decide)

/-- A number below 2⁶⁴ is read back from its decimal digits. -/
theorem milliseconds_toDigits {n : Nat} (h : n < UInt64.size) :
    milliseconds (Nat.toDigits 10 n) = .ok n := by
  have hfits : (some n).filter (· < UInt64.size) = some n :=
    Option.filter_some_pos (by simpa using h)
  rw [milliseconds, decimal?_toDigits, hfits]

theorem isHoldPart_toDigits (n : Nat) : IsHoldPart (Nat.toDigits 10 n) where
  nonempty := Nat.toDigits_ne_nil
  digits _ hc := isDecimalDigit_of_isDigit (isDigit_of_mem_toDigits hc)

/-! ## What can be written -/

/-- A modifier as strokes write it: an alias of at most five letters. -/
structure Alias where
  text : String
  modifier : Modifier
  named : Modifier.ofAlias? text = some modifier
  short : text.length ≤ 5

/-- A stroke: distinct modifiers, keys, and perhaps a hold time. -/
structure StrokePhrase where
  aliases : List Alias
  keys : List Key
  hold? : Option Nat
  distinct : (aliases.map Alias.modifier).Nodup
  nonempty : keys ≠ []

/-- What a script is written of. -/
inductive Phrase where
  | pause (ms : Nat)
  | layer (name : String) (layer : Layer) (named : Layer.ofName? name = some layer)
  | stroke (written : StrokePhrase)

/-- A stroke in writing: `C-S-TAB`, `L+M`, `QU@250`. -/
def StrokePhrase.text (stroke : StrokePhrase) : String :=
  String.join (stroke.aliases.map fun a => a.text ++ "-") ++
    "+".intercalate (stroke.keys.map Key.name) ++
    match stroke.hold? with
    | some hold => "@" ++ toString hold
    | none => ""

/-- A phrase in writing. -/
def Phrase.text : Phrase → String
  | pause ms => "~" ++ toString ms
  | layer name _ _ => "layer=" ++ name
  | stroke written => written.text

/-- What a phrase says. -/
def Phrase.item : Phrase → Item
  | pause ms => .pause ms
  | layer _ l _ => .layer l
  | stroke written =>
    .stroke (written.aliases.map Alias.modifier) written.keys (written.hold?.getD 20)

/-! ## Strokes -/

theorem Alias.isModifierPart (a : Alias) : IsModifierPart a.text.toList := by
  obtain ⟨hne, hletters⟩ := Modifier.alias_wellFormed a.named
  refine ⟨hletters, List.length_pos_of_ne_nil hne, ?_⟩
  rw [String.length_toList]
  exact a.short

namespace StrokePhrase

variable (stroke : StrokePhrase)

/-- The parts that a stroke is written of. -/
def parts : Parts where
  modifiers := stroke.aliases.map (·.text.toList)
  body := ['+'].intercalate (stroke.keys.map (·.name.toList))
  hold? := stroke.hold?.map (Nat.toDigits 10)

theorem toList_text : stroke.text.toList = stroke.parts.text := by
  have hmodifiers : (String.join (stroke.aliases.map fun a => a.text ++ "-")).toList =
      modifiersText stroke.parts.modifiers := by
    simp [modifiersText, parts, String.toList_join, List.flatMap_map]
  have hbody : ("+".intercalate (stroke.keys.map Key.name)).toList = stroke.parts.body := by
    simp [parts, String.toList_intercalate, Function.comp_def]
  have hhold : (match stroke.hold? with
      | some hold => "@" ++ toString hold
      | none => "").toList = holdText stroke.parts.hold? := by
    unfold parts
    cases stroke.hold? with
    | none => rfl
    | some hold => simp [holdText, Nat.toString_eq_repr]
  rw [text, String.toList_append, String.toList_append, hmodifiers, hbody, hhold, Parts.text,
    List.append_assoc]

/-- The keys are written in characters of names and `+`. -/
theorem mem_body {c : Char} (h : c ∈ stroke.parts.body) : c = '+' ∨ isNameChar c = true := by
  rcases mem_intercalate h with hsep | ⟨name, hname, hc⟩
  · exact .inl hsep
  · obtain ⟨key, -, rfl⟩ := List.mem_map.mp hname
    exact .inr (key.name_wellFormed.2 c hc)

/-- The names of the keys are what `+` parts. -/
theorem splitOn_body : splitOn '+' stroke.parts.body = stroke.keys.map (·.name.toList) := by
  refine splitOn_intercalate (mt List.map_eq_nil_iff.mp stroke.nonempty) ?_
  intro name hname hplus
  obtain ⟨key, -, rfl⟩ := List.mem_map.mp hname
  exact absurd (key.name_wellFormed.2 _ hplus) (by decide)

/-- The keys are not a text that has an empty part between `+`. -/
theorem body_ne {cs : List Char} (h : [] ∈ splitOn '+' cs) : stroke.parts.body ≠ cs := by
  rintro rfl
  rw [splitOn_body] at h
  obtain ⟨key, -, hname⟩ := List.mem_map.mp h
  exact key.name_wellFormed.1 hname

theorem keyNames_body : keyNames stroke.parts.body = stroke.keys.map (·.name.toList) := by
  rw [keyNames, if_neg (stroke.body_ne (by decide)), splitOn_body]

theorem wellFormed : stroke.parts.WellFormed where
  modifiers letters h := by
    obtain ⟨a, -, rfl⟩ := List.mem_map.mp h
    exact a.isModifierPart
  body := stroke.body_ne (by decide)
  hold digits h := by
    obtain ⟨n, -, rfl⟩ := Option.map_eq_some_iff.mp h
    exact isHoldPart_toDigits n

/-- A character that is neither `+` nor one of names is not in the keys. -/
theorem not_mem_body {c : Char} (hplus : c ≠ '+') (hname : isNameChar c = false) :
    c ∉ stroke.parts.body := by
  intro h
  rcases stroke.mem_body h with rfl | hc
  · exact hplus rfl
  · exact absurd hc (by simp [hname])

/-- A written stroke comes apart where it was put together. -/
theorem splitParts_text : splitParts stroke.text.toList = stroke.parts := by
  rw [toList_text]
  exact Script.splitParts_text stroke.wellFormed
    (stroke.not_mem_body (by decide) (by decide)) (stroke.not_mem_body (by decide) (by decide))

/-- The characters of a written stroke. -/
theorem mem_text {c : Char} (h : c ∈ stroke.text.toList) :
    isNameChar c = true ∨ c = '-' ∨ c = '+' ∨ c = '@' := by
  rw [toList_text, Parts.text] at h
  rcases List.mem_append.mp h with hmodifiers | hrest
  · obtain ⟨letters, hletters, hc⟩ := List.mem_flatMap.mp hmodifiers
    rcases List.mem_append.mp hc with hletter | hdash
    · exact .inl (isNameChar_of_isAlpha ((stroke.wellFormed.modifiers _ hletters).letters c hletter))
    · exact .inr (.inl (List.mem_singleton.mp hdash))
  · rcases List.mem_append.mp hrest with hbody | hhold
    · rcases stroke.mem_body hbody with hplus | hname
      · exact .inr (.inr (.inl hplus))
      · exact .inl hname
    · unfold parts at hhold
      cases hhold? : stroke.hold? with
      | none => simp [hhold?, holdText] at hhold
      | some hold =>
        rw [hhold?, Option.map_some, holdText] at hhold
        rcases List.mem_cons.mp hhold with hat | hdigit
        · exact .inr (.inr (.inr hat))
        · exact .inl (isNameChar_of_isDigit (isDigit_of_mem_toDigits hdigit))

/-- A stroke is neither a layer change nor a pause, which begin with other
characters. -/
theorem ofToken?_text : Item.ofToken? stroke.text.toList = readStroke stroke.text.toList := by
  have hequals : '=' ∉ stroke.text.toList := fun h => absurd (stroke.mem_text h) (by decide)
  have htilde : '~' ∉ stroke.text.toList := fun h => absurd (stroke.mem_text h) (by decide)
  unfold Item.ofToken?
  split
  · next heq =>
    rw [heq] at hequals
    simp at hequals
  · next heq =>
    rw [heq] at htilde
    simp at htilde
  · rfl

/-- The modifiers are read back, each by its alias. -/
theorem mapM_readModifier :
    stroke.parts.modifiers.mapM readModifier = .ok (stroke.aliases.map Alias.modifier) := by
  refine mapM_map_eq_ok ?_ stroke.aliases
  intro a
  rw [readModifier, String.ofList_toList, a.named]

/-- The keys are read back, each by its canonical name. -/
theorem mapM_readKey : (keyNames stroke.parts.body).mapM readKey = .ok stroke.keys := by
  have hread (key : Key) : readKey key.name.toList = .ok (id key) := by
    rw [readKey, String.ofList_toList, key.ofName?_name, id]
  rw [keyNames_body, mapM_map_eq_ok hread, List.map_id]

/-- The hold time is read back if it is below 2⁶⁴. -/
theorem readHold_hold? (h : stroke.hold?.getD 20 < UInt64.size) :
    readHold stroke.parts.hold? = .ok (stroke.hold?.getD 20) := by
  unfold parts
  cases hhold : stroke.hold? with
  | none => rfl
  | some hold =>
    rw [hhold] at h
    exact milliseconds_toDigits h

/-- A written stroke is read back, if its hold time is below 2⁶⁴. -/
theorem readStroke_text (h : stroke.hold?.getD 20 < UInt64.size) :
    readStroke stroke.text.toList = .ok (Phrase.stroke stroke).item := by
  refine readStroke_eq_ok_iff.mpr ⟨stroke.aliases.map Alias.modifier, stroke.hold?.getD 20,
    stroke.keys, ?_, ?_, ?_, ?_, rfl⟩
  · rw [splitParts_text, mapM_readModifier]
  · rw [splitParts_text]
    exact stroke.not_mem_body (by decide) (by decide)
  · rw [splitParts_text, stroke.readHold_hold? h]
  · rw [splitParts_text, mapM_readKey]

end StrokePhrase

/-! ## Phrases -/

theorem Phrase.toList_pause (ms : Nat) :
    (Phrase.pause ms).text.toList = '~' :: Nat.toDigits 10 ms := by
  rw [text, String.toList_append, Nat.toString_eq_repr, Nat.toList_repr]
  rfl

theorem Phrase.toList_layer (name : String) (l : Layer) (named : Layer.ofName? name = some l) :
    (Phrase.layer name l named).text.toList =
      ['l', 'a', 'y', 'e', 'r', '='] ++ name.toList := by
  rw [text, String.toList_append]
  rfl

/-- **A phrase is read back**, if the number it gives is below 2⁶⁴. -/
theorem Phrase.ofToken?_text (phrase : Phrase) (h : phrase.item.stated < UInt64.size) :
    Item.ofToken? phrase.text.toList = .ok phrase.item := by
  cases phrase with
  | pause ms =>
    have hdigits := isHoldPart_iff.mp (isHoldPart_toDigits ms)
    have hfits : ms < UInt64.size := h
    rw [toList_pause, Item.ofToken?, if_pos hdigits, milliseconds_toDigits hfits]
    rfl
  | layer name l named =>
    rw [toList_layer]
    simp only [List.cons_append, List.nil_append, Item.ofToken?, String.ofList_toList, named]
    rfl
  | stroke written =>
    show Item.ofToken? written.text.toList = _
    rw [written.ofToken?_text, written.readStroke_text h]

/-- Characters of names can stand in tokens. -/
theorem isTokenChar_of_isNameChar {c : Char} (h : isNameChar c = true) : IsTokenChar c := by
  obtain ⟨hfirst, hlast⟩ := toNat_of_isNameChar h
  exact isTokenChar_of_ascii (by omega) (by omega)

/-- A phrase is one token. -/
theorem Phrase.isToken (phrase : Phrase) : IsToken phrase.text.toList := by
  cases phrase with
  | pause ms =>
    rw [toList_pause]
    refine ⟨List.cons_ne_nil _ _, List.forall_mem_cons.mpr ⟨by decide, ?_⟩⟩
    intro c hc
    exact isTokenChar_of_isNameChar (isNameChar_of_isDigit (isDigit_of_mem_toDigits hc))
  | layer name l named =>
    rw [toList_layer]
    refine ⟨List.cons_ne_nil _ _, ?_⟩
    intro c hc
    have hfixed : ['l', 'a', 'y', 'e', 'r', '='].all (decide <| IsTokenChar ·) = true := by decide
    rcases List.mem_append.mp hc with hc | hc
    · exact of_decide_eq_true (List.all_eq_true.mp hfixed c hc)
    · exact isTokenChar_of_isNameChar (Layer.isNameChar_of_ofName? named c hc)
  | stroke written =>
    constructor
    · show written.text.toList ≠ []
      rw [written.toList_text, Parts.text]
      intro h
      exact written.wellFormed.rest_ne_nil (List.append_eq_nil_iff.mp h).2
    · intro c hc
      rcases written.mem_text hc with hname | rfl | rfl | rfl
      · exact isTokenChar_of_isNameChar hname
      · decide
      · decide
      · decide

/-- No modifier is written twice in a stroke. -/
theorem Phrase.distinct (phrase : Phrase) : phrase.item.Distinct := by
  cases phrase with
  | pause ms => trivial
  | layer name l named => trivial
  | stroke written => exact written.distinct

/-! ## Scripts -/

theorem readItems_phrases (n : Nat) {phrases : List Phrase}
    (h : ∀ phrase ∈ phrases, phrase.item.stated < UInt64.size) :
    readItems n (phrases.map (·.text.toList)) = .ok (phrases.map Phrase.item) := by
  induction phrases generalizing n with
  | nil => rfl
  | cons phrase rest ih =>
    obtain ⟨hphrase, hrest⟩ := List.forall_mem_cons.mp h
    rw [List.map_cons, readItems, phrase.ofToken?_text hphrase, ih _ hrest]
    rfl

/-- **A written script gives its timetable.** However the phrases are laid out, the
text is read as what they say, and its steps are the timetable. The clock bounds
every number in the script, so that none of them is too large to be read. -/
theorem parse_of_laid {phrases : List Phrase} {text : String}
    (hlaid : Laid (phrases.map (·.text.toList)) text.toList)
    (hclock : clockAfter 0 (phrases.map Phrase.item) < 2 ^ 64) :
    parse text = .ok (timetable 0 (phrases.map Phrase.item)) := by
  have htokens : tokens text = phrases.map (·.text.toList) := by
    refine tokens_eq_iff.mpr ⟨hlaid, ?_⟩
    intro token htoken
    obtain ⟨phrase, -, rfl⟩ := List.mem_map.mp htoken
    exact phrase.isToken
  have hfits : ∀ phrase ∈ phrases, phrase.item.stated < UInt64.size := by
    intro phrase hphrase
    exact Nat.lt_of_le_of_lt (stated_le_clockAfter 0 (List.mem_map_of_mem hphrase)) hclock
  have hdistinct : ∀ item ∈ phrases.map Phrase.item, item.Distinct := by
    intro item hitem
    obtain ⟨phrase, -, rfl⟩ := List.mem_map.mp hitem
    exact phrase.distinct
  rw [parse, htokens, readItems_phrases 1 hfits]
  exact congrArg Except.ok (schedule_eq_timetable 0 hdistinct)

/-- A shortcut that is held, a pause, a layer change and a chord. -/
def shortcutThenChord : List Phrase :=
  [.stroke
      { aliases := [⟨"C", .leftCtrl, by decide, by decide⟩, ⟨"Shift", .leftShift, by decide, by decide⟩]
        keys := [.tab]
        hold? := some 250
        distinct := by decide
        nonempty := by decide },
    .pause 300,
    .layer "Nav" .nav (by decide),
    .stroke
      { aliases := []
        keys := [.l, .m]
        hold? := none
        distinct := by decide
        nonempty := by decide }]

theorem parse_shortcutThenChord :
    parse "# tab back\nC-Shift-TAB@250\t~300 # wait\r\n  layer=Nav L+M#end" = .ok
      [.event (.press .leftCtrl ∅ 0),
        .event (.press .leftShift { leftCtrl := true } 0),
        .event (.press .tab { leftCtrl := true, leftShift := true } 0),
        .event (.release .tab { leftCtrl := true, leftShift := true } 250),
        .event (.release .leftShift { leftCtrl := true } 250),
        .event (.release .leftCtrl ∅ 250),
        .layer .nav,
        .event (.press .l ∅ 570),
        .event (.press .m ∅ 575),
        .event (.release .l ∅ 595),
        .event (.release .m ∅ 595)] := by
  have htokens : tokens "# tab back\nC-Shift-TAB@250\t~300 # wait\r\n  layer=Nav L+M#end" =
      shortcutThenChord.map (·.text.toList) := by
    decide +kernel
  have hclock : clockAfter 0 (shortcutThenChord.map Phrase.item) < 2 ^ 64 := by decide
  exact parse_of_laid (tokens_eq_iff.mp htokens).1 hclock

end Script

end Keymap
