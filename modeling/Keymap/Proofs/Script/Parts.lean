import Keymap.Proofs.Attempts
import Keymap.Script.Item

/-!
# The parts of a stroke

A stroke is written as modifiers, each followed by `-`, then the keys, then
perhaps `@` and digits. A token can come apart in several ways: in `S-A` the `S-`
is a modifier or belongs to the keys, and in `A@12` so does the `@12`. Of all ways
the one with the most modifiers is taken, and of those the one with the shortest
keys.

- `Parts`, `Parts.text`, `Parts.WellFormed`: the parts, what they look like one
  after another, and what may be a part.
- `Parts.Preferred`: the parts with the most modifiers and the shortest keys.
- `splitParts`: the parts that are taken. They are the preferred ones
  (`splitParts_preferred`), and there are no others (`Parts.Preferred.unique`).
- `splitParts_text`: parts whose keys have no `-` and no `@` come back.
- `readStroke_eq_ok_iff`: a stroke is read part by part.
-/

namespace Keymap.Script

open Text

/-! ## One modifier -/

/-- What can be written for a modifier: one to five ASCII letters. -/
structure IsModifierPart (part : List Char) : Prop where
  letters : ∀ c ∈ part, c.isAlpha = true
  nonempty : 1 ≤ part.length
  short : part.length ≤ 5

/-- A modifier comes first exactly if the text is letters, `-` and a rest. -/
theorem modifierPart?_eq_some_iff {cs letters rest : List Char} :
    modifierPart? cs = some (letters, rest) ↔
      IsModifierPart letters ∧ cs = letters ++ '-' :: rest := by
  constructor
  · intro h
    unfold modifierPart? at h
    split at h
    · next tail hdrop =>
      obtain ⟨hlength, hpair⟩ := Option.ite_none_right_eq_some.mp h
      obtain ⟨rfl, rfl⟩ := Prod.mk.inj (Option.some.inj hpair)
      have halpha : ∀ c ∈ cs.takeWhile Char.isAlpha, c.isAlpha = true :=
        fun c hc => List.all_eq_true.mp List.all_takeWhile c hc
      refine ⟨⟨halpha, hlength.1, hlength.2⟩, ?_⟩
      rw [← hdrop, List.takeWhile_append_dropWhile]
    · exact nomatch h
  · rintro ⟨hpart, rfl⟩
    have hdash : ('-'.isAlpha) = false := by decide
    have hdrop : (letters ++ '-' :: rest).dropWhile Char.isAlpha = '-' :: rest := by
      rw [List.dropWhile_append_of_pos hpart.letters]
      simp [hdash]
    have htake : (letters ++ '-' :: rest).takeWhile Char.isAlpha = letters := by
      rw [List.takeWhile_append_of_pos hpart.letters]
      simp [hdash]
    simp only [modifierPart?, hdrop, htake]
    rw [if_pos ⟨hpart.nonempty, hpart.short⟩]

/-! ## All modifiers -/

/-- A modifier that comes first is taken off, if something is left. -/
theorem splitModifiers_eq (cs : List Char) :
    splitModifiers cs = (modifierPart? cs).elim ([], cs) fun part =>
      if part.2 = [] then ([], cs)
      else (part.1 :: (splitModifiers part.2).1, (splitModifiers part.2).2) := by
  rw [splitModifiers]
  split
  · next letters rest hpart =>
    rw [hpart, Option.elim_some]
    simp only [List.isEmpty_iff]
  · next hnone => rw [hnone, Option.elim_none]

theorem splitModifiers_part {letters rest : List Char} (h : IsModifierPart letters)
    (hrest : rest ≠ []) :
    splitModifiers (letters ++ '-' :: rest) =
      (letters :: (splitModifiers rest).1, (splitModifiers rest).2) := by
  have hpart : modifierPart? (letters ++ '-' :: rest) = some (letters, rest) :=
    modifierPart?_eq_some_iff.mpr ⟨h, rfl⟩
  rw [splitModifiers_eq, hpart, Option.elim_some, if_neg hrest]

/-- Either no modifier is taken off, or one that comes first. -/
theorem splitModifiers_cases (cs : List Char) :
    splitModifiers cs = ([], cs) ∨
      ∃ letters rest, IsModifierPart letters ∧ rest ≠ [] ∧ cs = letters ++ '-' :: rest := by
  cases hpart : modifierPart? cs with
  | none =>
    left
    rw [splitModifiers_eq, hpart, Option.elim_none]
  | some part =>
    obtain ⟨letters, rest⟩ := part
    obtain ⟨hletters, hcs⟩ := modifierPart?_eq_some_iff.mp hpart
    by_cases hrest : rest = []
    · left
      rw [splitModifiers_eq, hpart, Option.elim_some, if_pos hrest]
    · exact .inr ⟨letters, rest, hletters, hrest, hcs⟩

/-- Nothing is taken off a text without `-`. -/
theorem splitModifiers_of_not_mem {cs : List Char} (h : '-' ∉ cs) :
    splitModifiers cs = ([], cs) := by
  rcases splitModifiers_cases cs with hnone | ⟨letters, rest, -, -, rfl⟩
  · exact hnone
  · exact absurd (by simp) h

/-- Modifiers one after another, each followed by `-`. -/
def modifiersText (modifiers : List (List Char)) : List Char :=
  modifiers.flatMap (· ++ ['-'])

/-- All modifiers in front of something are taken off, and then as many of the
rest as can be. -/
theorem splitModifiers_append {modifiers : List (List Char)}
    (h : ∀ letters ∈ modifiers, IsModifierPart letters) {rest : List Char} (hrest : rest ≠ []) :
    splitModifiers (modifiersText modifiers ++ rest) =
      (modifiers ++ (splitModifiers rest).1, (splitModifiers rest).2) := by
  induction modifiers with
  | nil => rfl
  | cons letters more ih =>
    obtain ⟨hletters, hmore⟩ := List.forall_mem_cons.mp h
    have htext : modifiersText (letters :: more) ++ rest =
        letters ++ '-' :: (modifiersText more ++ rest) := by
      simp [modifiersText]
    rw [htext, splitModifiers_part hletters (by simp [hrest]), ih hmore]
    rfl

/-- What is taken off can be put back. -/
theorem splitModifiers_spec (cs : List Char) :
    modifiersText (splitModifiers cs).1 ++ (splitModifiers cs).2 = cs ∧
      (∀ letters ∈ (splitModifiers cs).1, IsModifierPart letters) ∧
      (cs ≠ [] → (splitModifiers cs).2 ≠ []) := by
  rcases splitModifiers_cases cs with hnone | ⟨letters, rest, hletters, hrest, hcs⟩
  · rw [hnone]
    exact ⟨rfl, by simp, id⟩
  · have hshorter : rest.length < cs.length := by
      rw [hcs, List.length_append, List.length_cons]
      omega
    obtain ⟨htext, hparts, hne⟩ := splitModifiers_spec rest
    have hsplit := splitModifiers_part hletters hrest
    rw [← hcs] at hsplit
    rw [hsplit]
    refine ⟨?_, List.forall_mem_cons.mpr ⟨hletters, hparts⟩, fun _ => hne hrest⟩
    calc modifiersText (letters :: (splitModifiers rest).1) ++ (splitModifiers rest).2
        = letters ++ '-' :: (modifiersText (splitModifiers rest).1 ++ (splitModifiers rest).2) := by
          simp [modifiersText]
      _ = cs := by rw [htext, hcs]
termination_by cs.length

/-! ## Hold times -/

/-- What can be written for a hold time: decimal digits, at least one. -/
structure IsHoldPart (part : List Char) : Prop where
  nonempty : part ≠ []
  digits : ∀ c ∈ part, isDecimalDigit c = true

/-- A hold time as it is written behind the keys. -/
def holdText : Option (List Char) → List Char
  | none => []
  | some digits => '@' :: digits

theorem isHoldPart_iff {digits : List Char} :
    IsHoldPart digits ↔ (!digits.isEmpty && digits.all isDecimalDigit) = true := by
  simp only [Bool.and_eq_true, Bool.not_eq_true', List.isEmpty_eq_false_iff, List.all_eq_true]
  exact ⟨fun h => ⟨h.nonempty, h.digits⟩, fun h => ⟨h.1, h.2⟩⟩

/-- A hold time at the front is cut off. -/
theorem cutHold_hold {digits : List Char} (h : IsHoldPart digits) :
    cutHold ('@' :: digits) = ([], some digits) := by
  rw [cutHold, if_pos (by simpa using isHoldPart_iff.mp h)]

/-- What does not begin with a hold time goes on until one is cut off. -/
theorem cutHold_cons {c : Char} {rest : List Char} (h : ¬(c = '@' ∧ IsHoldPart rest)) :
    cutHold (c :: rest) = (c :: (cutHold rest).1, (cutHold rest).2) := by
  rw [cutHold, if_neg]
  rw [isHoldPart_iff] at h
  simpa [and_assoc] using h

/-- What is cut off can be put back. -/
theorem cutHold_spec (cs : List Char) :
    (cutHold cs).1 ++ holdText (cutHold cs).2 = cs ∧
      ∀ digits ∈ (cutHold cs).2, IsHoldPart digits := by
  induction cs with
  | nil => exact ⟨rfl, fun _ h => nomatch h⟩
  | cons c rest ih =>
    by_cases h : c = '@' ∧ IsHoldPart rest
    · obtain ⟨rfl, hrest⟩ := h
      rw [cutHold_hold hrest]
      refine ⟨rfl, fun digits hdigits => ?_⟩
      rw [← Option.mem_some.mp hdigits]
      exact hrest
    · rw [cutHold_cons h]
      exact ⟨congrArg (List.cons c) ih.1, ih.2⟩

/-- No other place for the cut is further in front. -/
theorem cutHold_isPrefix (body : List Char) {hold? : Option (List Char)}
    (h : ∀ digits ∈ hold?, IsHoldPart digits) :
    (cutHold (body ++ holdText hold?)).1 <+: body := by
  induction body with
  | nil =>
    cases hold? with
    | none => exact List.prefix_rfl
    | some digits =>
      have hcut : cutHold ([] ++ holdText (some digits)) = ([], some digits) :=
        cutHold_hold (h digits rfl)
      exact List.prefix_nil.mpr (congrArg Prod.fst hcut)
  | cons c body ih =>
    rw [List.cons_append]
    by_cases hcut : c = '@' ∧ IsHoldPart (body ++ holdText hold?)
    · rw [hcut.1, cutHold_hold hcut.2]
      exact List.nil_prefix
    · rw [cutHold_cons hcut]
      exact List.cons_prefix_cons.mpr ⟨rfl, ih⟩

/-- The cut is at the only `@`. -/
theorem cutHold_append {body : List Char} (hbody : '@' ∉ body) {hold? : Option (List Char)}
    (h : ∀ digits ∈ hold?, IsHoldPart digits) :
    cutHold (body ++ holdText hold?) = (body, hold?) := by
  induction body with
  | nil =>
    cases hold? with
    | none => rfl
    | some digits => exact cutHold_hold (h digits rfl)
  | cons c body ih =>
    obtain ⟨hc, hrest⟩ := not_or.mp (mt List.mem_cons.mpr hbody)
    rw [List.cons_append, cutHold_cons fun hcut => hc hcut.1.symm, ih hrest]

/-- The first character belongs to the keys, whatever it is. -/
theorem splitHold_cons (c : Char) (rest : List Char) :
    splitHold (c :: rest) = (c :: (cutHold rest).1, (cutHold rest).2) := rfl

/-! ## Strokes -/

/-- The parts of a stroke as they are written. -/
@[ext] structure Parts where
  modifiers : List (List Char)
  body : List Char
  hold? : Option (List Char)

/-- The parts one after another. -/
def Parts.text (parts : Parts) : List Char :=
  modifiersText parts.modifiers ++ (parts.body ++ holdText parts.hold?)

/-- What the parts of a stroke may be. -/
structure Parts.WellFormed (parts : Parts) : Prop where
  modifiers : ∀ letters ∈ parts.modifiers, IsModifierPart letters
  body : parts.body ≠ []
  hold : ∀ digits ∈ parts.hold?, IsHoldPart digits

/-- The parts that are taken. -/
def splitParts (token : List Char) : Parts where
  modifiers := (splitModifiers token).1
  body := (splitHold (splitModifiers token).2).1
  hold? := (splitHold (splitModifiers token).2).2

/-- The parts that are taken make up the token. -/
theorem text_splitParts (token : List Char) : (splitParts token).text = token := by
  obtain ⟨htext, -, -⟩ := splitModifiers_spec token
  have hrest : (splitParts token).body ++ holdText (splitParts token).hold? =
      (splitModifiers token).2 := by
    unfold splitParts
    cases (splitModifiers token).2 with
    | nil => rfl
    | cons c rest => exact congrArg (List.cons c) (cutHold_spec rest).1
  rw [Parts.text, hrest]
  exact htext

/-- They are what parts may be. -/
theorem splitParts_wellFormed {token : List Char} (h : token ≠ []) :
    (splitParts token).WellFormed := by
  obtain ⟨-, hmodifiers, hrest⟩ := splitModifiers_spec token
  obtain ⟨c, rest, hcons⟩ := List.exists_cons_of_ne_nil (hrest h)
  refine ⟨hmodifiers, ?_, ?_⟩
  · show (splitHold (splitModifiers token).2).1 ≠ []
    rw [hcons]
    exact List.cons_ne_nil _ _
  · show ∀ digits ∈ (splitHold (splitModifiers token).2).2, IsHoldPart digits
    rw [hcons]
    exact (cutHold_spec rest).2

section Preference

variable {parts : Parts} (h : parts.WellFormed)

include h

theorem Parts.WellFormed.rest_ne_nil : parts.body ++ holdText parts.hold? ≠ [] :=
  fun hnil => h.body (List.append_eq_nil_iff.mp hnil).1

/-- No other parts of the token have more modifiers. -/
theorem modifiers_splitParts : parts.modifiers <+: (splitParts parts.text).modifiers := by
  show parts.modifiers <+: (splitModifiers parts.text).1
  rw [Parts.text, splitModifiers_append h.modifiers h.rest_ne_nil]
  exact List.prefix_append _ _

/-- Of the parts with as many modifiers no others have shorter keys. -/
theorem body_splitParts (hmost : (splitParts parts.text).modifiers = parts.modifiers) :
    (splitParts parts.text).body <+: parts.body := by
  have hsplit := splitModifiers_append h.modifiers h.rest_ne_nil
  rw [← Parts.text] at hsplit
  have hnone : (splitModifiers (parts.body ++ holdText parts.hold?)).1 = [] := by
    have hall : (splitModifiers parts.text).1 = parts.modifiers := hmost
    rw [hsplit] at hall
    simpa using hall
  have hrest : (splitModifiers parts.text).2 = parts.body ++ holdText parts.hold? := by
    obtain ⟨htext, -, -⟩ := splitModifiers_spec (parts.body ++ holdText parts.hold?)
    rw [hnone] at htext
    rw [hsplit]
    exact htext
  show (splitHold (splitModifiers parts.text).2).1 <+: parts.body
  obtain ⟨c, body, hbody⟩ := List.exists_cons_of_ne_nil h.body
  rw [hrest, hbody, List.cons_append, splitHold_cons]
  exact List.cons_prefix_cons.mpr ⟨rfl, cutHold_isPrefix body h.hold⟩

/-- **Parts whose keys have no `-` and no `@` come back.** -/
theorem splitParts_text (hdash : '-' ∉ parts.body) (hat : '@' ∉ parts.body) :
    splitParts parts.text = parts := by
  have hrest : '-' ∉ parts.body ++ holdText parts.hold? := by
    intro hmem
    rcases List.mem_append.mp hmem with hbody | hhold
    · exact hdash hbody
    · cases hhold? : parts.hold? with
      | none => simp [hhold?, holdText] at hhold
      | some digits =>
        rw [hhold?, holdText] at hhold
        rcases List.mem_cons.mp hhold with heq | hdigits
        · exact absurd heq (by decide)
        · have hdigit := (h.hold digits hhold?).digits _ hdigits
          exact absurd hdigit (by decide)
  have hsplit : splitModifiers parts.text =
      (parts.modifiers, parts.body ++ holdText parts.hold?) := by
    rw [Parts.text, splitModifiers_append h.modifiers h.rest_ne_nil,
      splitModifiers_of_not_mem hrest, List.append_nil]
  have hcut : splitHold (parts.body ++ holdText parts.hold?) = (parts.body, parts.hold?) := by
    obtain ⟨c, body, hbody⟩ := List.exists_cons_of_ne_nil h.body
    rw [hbody] at hat ⊢
    rw [List.cons_append, splitHold_cons,
      cutHold_append (fun hmem => hat (List.mem_cons_of_mem c hmem)) h.hold]
  rw [splitParts, hsplit, hcut]

end Preference

/-! ## The preferred parts -/

/-- The parts that a greedy pattern for the modifiers and a lazy one for the keys take:
of all parts that make up the token they have the most modifiers, and of those with as
many the shortest keys. -/
structure Parts.Preferred (parts : Parts) (token : List Char) : Prop where
  text : parts.text = token
  wellFormed : parts.WellFormed
  modifiers : ∀ other : Parts, other.WellFormed → other.text = token →
    other.modifiers <+: parts.modifiers
  body : ∀ other : Parts, other.WellFormed → other.text = token →
    other.modifiers = parts.modifiers → parts.body <+: other.body

/-- **The parts that are taken are the preferred ones.** -/
theorem splitParts_preferred {token : List Char} (h : token ≠ []) :
    (splitParts token).Preferred token where
  text := text_splitParts token
  wellFormed := splitParts_wellFormed h
  modifiers other hother htext := by
    rw [← htext]
    exact modifiers_splitParts hother
  body other hother htext hmost := by
    rw [← htext] at hmost ⊢
    exact body_splitParts hother hmost.symm

theorem holdText_inj {hold? hold?' : Option (List Char)}
    (h : holdText hold? = holdText hold?') : hold? = hold?' := by
  cases hold? with
  | none =>
    cases hold?' with
    | none => rfl
    | some digits => exact nomatch h
  | some digits =>
    cases hold?' with
    | none => exact nomatch h
    | some digits' => exact congrArg some (List.cons.inj h).2

/-- A token has only one way to come apart into preferred parts. -/
theorem Parts.Preferred.unique {parts parts' : Parts} {token : List Char}
    (h : parts.Preferred token) (h' : parts'.Preferred token) : parts = parts' := by
  have hmodifiers : parts.modifiers = parts'.modifiers := by
    have hle := h'.modifiers parts h.wellFormed h.text
    have hge := h.modifiers parts' h'.wellFormed h'.text
    exact hle.eq_of_length (Nat.le_antisymm hle.length_le hge.length_le)
  have hbody : parts.body = parts'.body := by
    have hle := h.body parts' h'.wellFormed h'.text hmodifiers.symm
    have hge := h'.body parts h.wellFormed h.text hmodifiers
    exact hle.eq_of_length (Nat.le_antisymm hle.length_le hge.length_le)
  have hhold : holdText parts.hold? = holdText parts'.hold? := by
    have htext : parts.text = parts'.text := h.text.trans h'.text.symm
    unfold Parts.text at htext
    rw [hmodifiers, hbody] at htext
    exact List.append_cancel_left (List.append_cancel_left htext)
  ext1
  · exact hmodifiers
  · exact hbody
  · exact holdText_inj hhold

/-! ## Reading -/

/-- The hold time of a stroke. -/
def readHold : Option (List Char) → Except Fault Nat
  | some digits => milliseconds digits
  | none => .ok defaultHold

/-- A stroke is read part by part, and an `@` among the keys is refused. -/
theorem readStroke_eq (token : List Char) :
    readStroke token = ((splitParts token).modifiers.mapM readModifier >>= fun mods =>
      if '@' ∈ (splitParts token).body then .error (.invalidHold (String.ofList token))
      else readHold (splitParts token).hold? >>= fun hold =>
        (keyNames (splitParts token).body).mapM readKey >>= fun keys =>
          .ok (.stroke mods keys hold)) := by
  have hread : readStroke token = (do
      let mods ← (splitParts token).modifiers.mapM readModifier
      if (splitParts token).body.contains '@' then
        throw (.invalidHold (String.ofList token))
      let hold ← match (splitParts token).hold? with
        | some digits => milliseconds digits
        | none => pure defaultHold
      let keys ← (keyNames (splitParts token).body).mapM readKey
      return .stroke mods keys hold) := rfl
  rw [hread]
  congr 1
  funext mods
  by_cases hat : '@' ∈ (splitParts token).body
  · rw [if_pos hat, List.contains_iff_mem.mpr hat]
    rfl
  · have hcontains : (splitParts token).body.contains '@' = false := by simpa using hat
    rw [if_neg hat, hcontains]
    cases (splitParts token).hold? with
    | none => rfl
    | some digits => rfl

/-- **What a stroke is read as**: its modifiers, its keys and its hold time, if all
of them can be read and no `@` is among the keys. -/
theorem readStroke_eq_ok_iff {token : List Char} {item : Item} :
    readStroke token = .ok item ↔
      ∃ mods hold keys, (splitParts token).modifiers.mapM readModifier = .ok mods ∧
        '@' ∉ (splitParts token).body ∧
        readHold (splitParts token).hold? = .ok hold ∧
        (keyNames (splitParts token).body).mapM readKey = .ok keys ∧
        item = .stroke mods keys hold := by
  rw [readStroke_eq, bind_eq_ok]
  constructor
  · rintro ⟨mods, hmods, h⟩
    by_cases hat : '@' ∈ (splitParts token).body
    · rw [if_pos hat] at h
      exact nomatch h
    · rw [if_neg hat, bind_eq_ok] at h
      obtain ⟨hold, hhold, h⟩ := h
      obtain ⟨keys, hkeys, h⟩ := bind_eq_ok.mp h
      exact ⟨mods, hold, keys, hmods, hat, hhold, hkeys, (Except.ok.inj h).symm⟩
  · rintro ⟨mods, hold, keys, hmods, hat, hhold, hkeys, rfl⟩
    refine ⟨mods, hmods, ?_⟩
    rw [if_neg hat, hhold, hkeys]
    rfl

end Keymap.Script
