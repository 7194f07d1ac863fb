import Mathlib
import Keymap.Proofs.Names
import Keymap.Proofs.Script.Joining
import Keymap.Proofs.Script.Parts
import Keymap.Proofs.Script.Printing

/-!
# One modifier more

A modifier is put in front of a stroke by one of its aliases and a `-`. The stroke then
happens inside a press and a release of the modifier, and all its events tell that it is
down. This goes well with the aliases of at most five letters. Three of them are longer,
and with these in front a stroke is taken for a key that is not there.

- `strokeEvents_cons`: what one modifier more does to a stroke.
- `splitParts_short`, `splitParts_long`: how the token comes apart.
- `parse_prefixed`: **what a stroke with one modifier more is read as**.
- `parse_control_a`: an alias that is too long.
-/

namespace Keymap

/-- The step with further modifiers held, if it is an event. -/
def Script.Step.withMods (mods : ModMask) : Step → Step
  | .event e => .event (e.withMods mods)
  | .layer l => .layer l

namespace Script

open Text

/-! ## What happens -/

section OneMore

variable (m : Modifier)

theorem pressModifiers_withMods (time : Nat) (held : ModMask) (mods : List Modifier) :
    pressModifiers time (held ∪ .single m) mods =
      (pressModifiers time held mods).map (KeyEvent.withMods · (.single m)) := by
  induction mods generalizing held with
  | nil => rfl
  | cons m' rest ih =>
    have hswap : held ∪ .single m ∪ .single m' = held ∪ .single m' ∪ .single m := by
      rw [ModMask.union_assoc, ModMask.union_comm (.single m), ← ModMask.union_assoc]
    rw [pressModifiers, hswap, ih]
    rfl

theorem pressKeys_withMods (time : Nat) (mask : ModMask) (keys : List Key) :
    pressKeys time (mask ∪ .single m) keys =
      (pressKeys time mask keys).map (KeyEvent.withMods · (.single m)) := by
  induction keys generalizing time with
  | nil => rfl
  | cons key rest ih =>
    rw [pressKeys, ih]
    rfl

variable {m}

/-- The modifier comes up last, when all others are up. -/
theorem releaseModifiers_concat {time : Nat} {held : ModMask} {mods : List Modifier}
    (hm : m ∉ mods) (hheld : ∀ m', held.holds m' = true → m' ∈ mods) :
    releaseModifiers time (held ∪ .single m) (mods ++ [m]) =
      (releaseModifiers time held mods).map (KeyEvent.withMods · (.single m)) ++
        [.release m.key ∅ time] := by
  induction mods generalizing held with
  | nil =>
    have hempty : (held ∪ .single m) \ .single m = ∅ := by
      refine ModMask.ext_holds fun m' => ?_
      have hnone : held.holds m' = false :=
        Bool.eq_false_iff.mpr fun htrue => nomatch hheld m' htrue
      simp [hnone]
    show [KeyEvent.release m.key ((held ∪ .single m) \ .single m) time] = _
    rw [hempty]
    rfl
  | cons m' rest ih =>
    obtain ⟨hne, hrest⟩ := not_or.mp (mt List.mem_cons.mpr hm)
    have hswap : (held ∪ .single m) \ .single m' = held \ .single m' ∪ .single m := by
      refine ModMask.ext_holds fun other => ?_
      by_cases hother : other = m
      · simp [hother, hne]
      · simp [beq_eq_false_iff_ne.mpr hother]
    have hless : ∀ other, (held \ .single m').holds other = true → other ∈ rest := by
      intro other hother
      simp only [ModMask.holds_sdiff, ModMask.holds_single, Bool.and_eq_true, Bool.not_eq_true',
        beq_eq_false_iff_ne] at hother
      exact List.mem_of_ne_of_mem hother.2 (hheld other hother.1)
    rw [List.cons_append, releaseModifiers, hswap, ih hrest hless]
    rfl

/-- **A stroke with one modifier more** happens inside a press and a release of it. -/
theorem strokeEvents_cons {start : Nat} {mods : List Modifier} {keys : List Key} {hold : Nat}
    (hm : m ∉ mods) :
    strokeEvents start (m :: mods) keys hold =
      .press m.key ∅ start ::
        ((strokeEvents start mods keys hold).map (KeyEvent.withMods · (.single m)) ++
          [.release m.key ∅ (start + strokeLength keys hold)]) := by
  have hmask : maskOf (m :: mods) = maskOf mods ∪ .single m := by
    rw [maskOf_eq_ofList, maskOf_eq_ofList]
    refine ModMask.ext_holds fun m' => ?_
    simp [Bool.or_comm, beq_eq_decide]
  have hpress : pressModifiers start ∅ (m :: mods) = .press m.key ∅ start ::
      (pressModifiers start ∅ mods).map (KeyEvent.withMods · (.single m)) := by
    rw [pressModifiers, pressModifiers_withMods]
  have hrelease : releaseModifiers (start + strokeLength keys hold) (maskOf mods ∪ .single m)
        (m :: mods).reverse =
      (releaseModifiers (start + strokeLength keys hold) (maskOf mods) mods.reverse).map
          (KeyEvent.withMods · (.single m)) ++
        [.release m.key ∅ (start + strokeLength keys hold)] := by
    rw [List.reverse_cons]
    refine releaseModifiers_concat (by simpa using hm) fun m' hm' => ?_
    rw [maskOf_eq_ofList] at hm'
    simpa using hm'
  simp only [strokeEvents, hmask, hpress, hrelease, pressKeys_withMods, List.map_append,
    List.map_map, List.cons_append, List.append_assoc]
  rfl

end OneMore

/-! ## How the token comes apart -/

/-- A short alias is one modifier more. -/
theorem splitParts_short {letters token : List Char} (h : IsModifierPart letters)
    (htoken : token ≠ []) :
    splitParts (letters ++ '-' :: token) =
      { splitParts token with modifiers := letters :: (splitParts token).modifiers } := by
  unfold splitParts
  rw [splitModifiers_part h htoken]

/-- A separator is not among letters. -/
theorem not_mem_letters {letters : List Char} (h : ∀ c ∈ letters, c.isAlpha = true) {sep : Char}
    (hsep : sep.isAlpha = false) : sep ∉ letters := by
  intro hmem
  rw [h sep hmem] at hsep
  cases hsep

/-- The letters in front of the first `-` are known. -/
theorem letters_inj {letters letters' rest rest' : List Char}
    (h : ∀ c ∈ letters, c.isAlpha = true) (h' : ∀ c ∈ letters', c.isAlpha = true)
    (heq : letters ++ '-' :: rest = letters' ++ '-' :: rest') : letters = letters' := by
  have htake (cs tail : List Char) (hcs : ∀ c ∈ cs, c.isAlpha = true) :
      (cs ++ '-' :: tail).takeWhile Char.isAlpha = cs := by
    rw [List.takeWhile_append_of_pos hcs]
    simp
  rw [← htake letters rest h, heq, htake letters' rest' h']

/-- The token up to its hold time. -/
def Parts.front (parts : Parts) : List Char :=
  modifiersText parts.modifiers ++ parts.body

theorem Parts.front_append_holdText (parts : Parts) :
    parts.front ++ holdText parts.hold? = parts.text :=
  List.append_assoc _ _ _

/-- If no `@` is among the keys, the one of the hold time is the first. -/
theorem Parts.WellFormed.at_not_mem_front {parts : Parts} (h : parts.WellFormed)
    (hat : '@' ∉ parts.body) : '@' ∉ parts.front := by
  intro hmem
  rcases List.mem_append.mp hmem with hmodifiers | hbody
  · obtain ⟨part, hpart, hc⟩ := List.mem_flatMap.mp hmodifiers
    rcases List.mem_append.mp hc with hletter | hdash
    · exact not_mem_letters (h.modifiers part hpart).letters (by decide) hletter
    · exact absurd (List.mem_singleton.mp hdash) (by decide)
  · exact hat hbody

/-- Letters and a `-` bring no `@` with them. -/
theorem at_not_mem_letters {letters rest : List Char} (h : ∀ c ∈ letters, c.isAlpha = true)
    (hrest : '@' ∉ rest) : '@' ∉ letters ++ '-' :: rest := by
  simp [not_mem_letters h, hrest]

/-- A long one is not, and the whole token up to the hold time is taken for keys. -/
theorem splitParts_long {letters token : List Char} (hletters : ∀ c ∈ letters, c.isAlpha = true)
    (hlong : 5 < letters.length) (htoken : token ≠ []) (hat : '@' ∉ (splitParts token).body) :
    splitParts (letters ++ '-' :: token) =
      ⟨[], letters ++ '-' :: (splitParts token).front, (splitParts token).hold?⟩ := by
  have hparts := splitParts_wellFormed htoken
  have hnone : splitModifiers (letters ++ '-' :: token) = ([], letters ++ '-' :: token) := by
    rcases splitModifiers_cases (letters ++ '-' :: token) with hnone | ⟨letters', rest, h, -, heq⟩
    · exact hnone
    · have hshort := h.short
      rw [← letters_inj hletters h.letters heq] at hshort
      omega
  cases letters with
  | nil => exact absurd hlong (by decide)
  | cons c rest =>
    have hrest : '@' ∉ rest ++ '-' :: (splitParts token).front :=
      at_not_mem_letters (fun d hd => hletters d (List.mem_cons_of_mem c hd))
        (hparts.at_not_mem_front hat)
    have htext : rest ++ '-' :: token =
        (rest ++ '-' :: (splitParts token).front) ++ holdText (splitParts token).hold? := by
      rw [List.append_assoc, List.cons_append, Parts.front_append_holdText, text_splitParts]
    have hcut : splitHold (c :: rest ++ '-' :: token) =
        (c :: rest ++ '-' :: (splitParts token).front, (splitParts token).hold?) := by
      rw [List.cons_append, splitHold_cons, htext, cutHold_append hrest hparts.hold]
      rfl
    show Parts.mk (splitModifiers _).1 (splitHold (splitModifiers _).2).1
      (splitHold (splitModifiers _).2).2 = _
    rw [hnone, hcut]

/-! ## Reading -/

/-- What begins with letters and a `-` is neither a layer change nor a pause. -/
theorem ofToken?_letters {letters token : List Char} (h : ∀ c ∈ letters, c.isAlpha = true)
    (hne : letters ≠ []) :
    Item.ofToken? (letters ++ '-' :: token) = readStroke (letters ++ '-' :: token) := by
  have hdrop : (letters ++ '-' :: token).dropWhile Char.isAlpha = '-' :: token := by
    rw [List.dropWhile_append_of_pos h]
    simp
  unfold Item.ofToken?
  split
  · next heq =>
    rw [heq] at hdrop
    simp at hdrop
  · next heq =>
    obtain ⟨c, rest, rfl⟩ := List.exists_cons_of_ne_nil hne
    obtain ⟨rfl, -⟩ := List.cons.inj heq
    exact absurd (h '~' List.mem_cons_self) (by decide)
  · rfl

/-- What is read as a stroke is neither a layer change nor a pause. -/
theorem readStroke_of_ofToken? {token : List Char} {mods : List Modifier} {keys : List Key}
    {hold : Nat} (h : Item.ofToken? token = .ok (.stroke mods keys hold)) :
    readStroke token = .ok (.stroke mods keys hold) := by
  unfold Item.ofToken? at h
  split at h
  · split at h <;> cases h
  · next digits =>
    split at h
    · cases hms : milliseconds digits with
      | error fault =>
        rw [hms] at h
        cases h
      | ok ms =>
        rw [hms] at h
        cases h
    · exact h
  · exact h

/-- The name up to the first separator. -/
def firstName (cs : List Char) : List Char :=
  cs.takeWhile fun c => c != '+' && c != '@'

/-- A stroke behind a short alias. -/
theorem readStroke_short {letters token : List Char} {m : Modifier} {mods : List Modifier}
    {keys : List Key} {hold : Nat} (hletters : IsModifierPart letters)
    (hm : readModifier letters = .ok m) (htoken : token ≠ [])
    (h : readStroke token = .ok (.stroke mods keys hold)) :
    readStroke (letters ++ '-' :: token) = .ok (.stroke (m :: mods) keys hold) := by
  obtain ⟨mods', hold', keys', hmods, hat, hhold, hkeys, hitem⟩ := readStroke_eq_ok_iff.mp h
  cases hitem
  refine readStroke_eq_ok_iff.mpr ⟨m :: mods, hold, keys, ?_, ?_, ?_, ?_, rfl⟩
  · rw [splitParts_short hletters htoken, List.mapM_cons, hm, hmods]
    rfl
  · rw [splitParts_short hletters htoken]
    exact hat
  · rw [splitParts_short hletters htoken]
    exact hhold
  · rw [splitParts_short hletters htoken]
    exact hkeys

theorem firstName_holdText {cs : List Char} (hat : '@' ∉ cs) (hold? : Option (List Char)) :
    firstName (cs ++ holdText hold?) = cs.takeWhile (· != '+') := by
  induction cs with
  | nil => cases hold? <;> rfl
  | cons c rest ih =>
    obtain ⟨hc, hrest⟩ := not_or.mp (mt List.mem_cons.mpr hat)
    have hc : (c != '@') = true := bne_iff_ne.mpr (Ne.symm hc)
    show List.takeWhile _ (c :: (rest ++ holdText hold?)) = _
    rw [List.takeWhile_cons, List.takeWhile_cons, hc, Bool.and_true]
    split
    · exact congrArg (List.cons c) (ih hrest)
    · rfl

theorem firstName_letters {letters : List Char} (h : ∀ c ∈ letters, c.isAlpha = true)
    (token : List Char) :
    firstName (letters ++ '-' :: token) = letters ++ '-' :: firstName token := by
  have hpass : ∀ c ∈ letters, (c != '+' && c != '@') = true := by
    intro c hc
    rw [Bool.and_eq_true, bne_iff_ne, bne_iff_ne]
    constructor
    · rintro rfl
      exact not_mem_letters h (by decide) hc
    · rintro rfl
      exact not_mem_letters h (by decide) hc
  rw [firstName, List.takeWhile_append_of_pos hpass]
  rfl

/-- No key is named by many letters and a `-`. -/
theorem readKey_long {letters : List Char} (hlong : 5 < letters.length) (rest : List Char) :
    readKey (letters ++ '-' :: rest) =
      .error (.unknownKey (String.ofList (letters ++ '-' :: rest))) := by
  have hunknown : Key.ofName? (String.ofList (letters ++ '-' :: rest)) = none := by
    refine Key.ofName?_eq_none_of_dash ?_ ?_
    · rw [String.toList_ofList]
      exact List.mem_append_right letters List.mem_cons_self
    · rw [String.toList_ofList, List.length_append]
      omega
  rw [readKey, hunknown]

/-- Keys with a `-` among their characters are not a single `+`, so that the first name
ends at the first `+`. -/
theorem keyNames_eq_cons {body : List Char} (hdash : '-' ∈ body) :
    ∃ more, keyNames body = body.takeWhile (· != '+') :: more := by
  have hplus : body ≠ ['+'] := by
    rintro rfl
    exact absurd hdash (by decide)
  obtain ⟨more, hmore⟩ := splitOn_eq_cons '+' body
  exact ⟨more, (if_neg hplus).trans hmore⟩

/-- A stroke behind a long alias is taken for an unknown key. -/
theorem readStroke_long {letters token : List Char} {item : Item}
    (hletters : ∀ c ∈ letters, c.isAlpha = true) (hlong : 5 < letters.length)
    (htoken : token ≠ []) (h : readStroke token = .ok item) :
    readStroke (letters ++ '-' :: token) =
      .error (.unknownKey (String.ofList (letters ++ '-' :: firstName token))) := by
  obtain ⟨mods, hold, keys, -, hat, hhold, -, -⟩ := readStroke_eq_ok_iff.mp h
  have hbody : '@' ∉ letters ++ '-' :: (splitParts token).front :=
    at_not_mem_letters hletters ((splitParts_wellFormed htoken).at_not_mem_front hat)
  have hfirst : (letters ++ '-' :: (splitParts token).front).takeWhile (· != '+') =
      letters ++ '-' :: firstName token := by
    rw [← firstName_holdText hbody (splitParts token).hold?, List.append_assoc,
      List.cons_append, Parts.front_append_holdText, text_splitParts, firstName_letters hletters]
  have hkeys : (keyNames (letters ++ '-' :: (splitParts token).front)).mapM readKey =
      .error (.unknownKey (String.ofList (letters ++ '-' :: firstName token))) := by
    obtain ⟨more, hmore⟩ := keyNames_eq_cons (List.mem_append_right letters List.mem_cons_self)
    rw [hmore, hfirst, List.mapM_cons, readKey_long hlong]
    rfl
  rw [readStroke_eq, splitParts_long hletters hlong htoken hat]
  -- no modifier is taken off, so that nothing is read before the keys but the hold time
  show (if '@' ∈ letters ++ '-' :: (splitParts token).front then _ else
    readHold (splitParts token).hold? >>= fun _ =>
      (keyNames (letters ++ '-' :: (splitParts token).front)).mapM readKey >>= fun _ => _) = _
  rw [if_neg hbody, hhold, hkeys]
  rfl

theorem ofToken?_nil : Item.ofToken? [] = .error (.unknownKey "") := by
  decide +kernel

/-! ## Scripts of one token -/

theorem tokens_token {text : String} (h : IsToken text.toList) : tokens text = [text.toList] := by
  refine tokens_eq_iff.mpr ⟨?_, List.forall_mem_singleton.mpr h⟩
  have hlaid : Laid [text.toList] (text.toList ++ []) := .token text.toList (by simp [Parted]) .nil
  rwa [List.append_nil] at hlaid

/-- A script of one token is what the token says. -/
theorem parse_token {text : String} (h : IsToken text.toList) :
    parse text = ((Item.ofToken? text.toList).mapError (Error.mk 1)).map (Item.steps 0) := by
  rw [parse, tokens_token h, readItems, readItems]
  cases Item.ofToken? text.toList with
  | error fault => rfl
  | ok item => exact congrArg Except.ok (List.append_nil _)

/-- A token behind letters and a `-` is a token. -/
theorem isToken_letters {letters token : List Char} (hletters : ∀ c ∈ letters, c.isAlpha = true)
    (htoken : ∀ c ∈ token, IsTokenChar c) : IsToken (letters ++ '-' :: token) := by
  refine ⟨by simp, fun c hc => ?_⟩
  rcases List.mem_append.mp hc with hletter | hrest
  · exact isTokenChar_of_isNameChar (isNameChar_of_isAlpha (hletters c hletter))
  · rcases List.mem_cons.mp hrest with rfl | hrest
    · decide
    · exact htoken c hrest

/-- **A stroke with one modifier more.** Behind an alias of at most five letters a stroke
is read with the modifier, which goes down before all its events, is told by each of
them, and comes up behind them. Behind a longer alias it is an unknown key. -/
theorem parse_prefixed {a token : String} {m : Modifier} {mods : List Modifier}
    {keys : List Key} {hold : Nat} {steps : List Step} (ha : Modifier.ofAlias? a = some m)
    (htoken : ∀ c ∈ token.toList, IsTokenChar c)
    (hread : Item.ofToken? token.toList = .ok (.stroke mods keys hold))
    (hsteps : parse token = .ok steps) (hm : m ∉ mods) :
    parse (a ++ "-" ++ token) =
      if a.length ≤ 5 then
        .ok (.event (.press m.key ∅ 0) :: (steps.map (Step.withMods (.single m)) ++
          [.event (.release m.key ∅ (strokeLength keys hold))]))
      else
        .error ⟨1, .unknownKey (a ++ "-" ++ String.ofList (firstName token.toList))⟩ := by
  obtain ⟨hne, hletters⟩ := Modifier.alias_wellFormed ha
  have hnonempty : token.toList ≠ [] := by
    intro hempty
    rw [hempty, ofToken?_nil] at hread
    cases hread
  have htext : (a ++ "-" ++ token).toList = a.toList ++ '-' :: token.toList := by simp
  have hwhole : IsToken (a ++ "-" ++ token).toList := by
    rw [htext]
    exact isToken_letters hletters htoken
  have hstroke := readStroke_of_ofToken? hread
  rw [parse_token ⟨hnonempty, htoken⟩, hread] at hsteps
  rw [parse_token hwhole, htext, ofToken?_letters hletters hne, ← Except.ok.inj hsteps]
  by_cases hshort : a.length ≤ 5
  · have hpart : IsModifierPart a.toList :=
      ⟨hletters, List.length_pos_of_ne_nil hne, String.length_toList ▸ hshort⟩
    have hmodifier : readModifier a.toList = .ok m := by
      rw [readModifier, String.ofList_toList, ha]
    rw [if_pos hshort, readStroke_short hpart hmodifier hnonempty hstroke]
    show Except.ok ((strokeEvents 0 (m :: mods) keys hold).map Step.event) = _
    rw [strokeEvents_cons hm, Nat.zero_add]
    simp [Item.steps, Step.withMods, Function.comp_def]
  · have hlong : 5 < a.toList.length := by
      rw [String.length_toList]
      omega
    have hname : String.ofList (a.toList ++ '-' :: firstName token.toList) =
        a ++ "-" ++ String.ofList (firstName token.toList) := by
      apply String.toList_inj.mp
      simp
    rw [if_neg hshort, readStroke_long hletters hlong hnonempty hstroke, hname]
    rfl

/-- A held key behind two modifiers, the first of which is put in front. -/
theorem parse_prefixed_shift :
    let steps : List Step :=
      [.event (.press .leftCtrl ∅ 0), .event (.press .qu (.single .leftCtrl) 0),
        .event (.release .qu (.single .leftCtrl) 250), .event (.release .leftCtrl ∅ 250)]
    Modifier.ofAlias? "Shift" = some .leftShift ∧
      (∀ c ∈ "c-QU@250".toList, IsTokenChar c) ∧
      Item.ofToken? "c-QU@250".toList = .ok (.stroke [.leftCtrl] [.qu] 250) ∧
      parse "c-QU@250" = .ok steps ∧
      parse "Shift-c-QU@250" = .ok (.event (.press .leftShift ∅ 0) ::
        (steps.map (Step.withMods (.single .leftShift)) ++
          [.event (.release .leftShift ∅ 250)])) := by
  intro steps
  have hshift : Modifier.ofAlias? "Shift" = some .leftShift := by decide
  have hall : "c-QU@250".toList.all (decide <| IsTokenChar ·) = true := by decide
  have hchars : ∀ c ∈ "c-QU@250".toList, IsTokenChar c :=
    fun c hc => of_decide_eq_true (List.all_eq_true.mp hall c hc)
  have hread : Item.ofToken? "c-QU@250".toList = .ok (.stroke [.leftCtrl] [.qu] 250) := by
    decide +kernel
  have hsteps : parse "c-QU@250" = .ok steps := by decide +kernel
  have htext : "Shift" ++ "-" ++ "c-QU@250" = "Shift-c-QU@250" := by decide
  have hparse := parse_prefixed hshift hchars hread hsteps (by decide)
  rw [htext, if_pos (by decide)] at hparse
  exact ⟨hshift, hchars, hread, hsteps, hparse⟩

/-- An alias of seven letters is an alias, but not in front of a key. -/
theorem parse_control_a :
    Modifier.ofAlias? "control" = some .leftCtrl ∧
      Item.ofToken? "a".toList = .ok (.stroke [] [.a] 20) ∧
      parse "a" = .ok [.event (.press .a ∅ 0), .event (.release .a ∅ 20)] ∧
      parse "control-a" = .error ⟨1, .unknownKey "control-a"⟩ :=
  ⟨by decide, by decide +kernel, by decide +kernel, by decide +kernel⟩

end Script

end Keymap
