import Keymap.Script.Token

/-!
# How a text is laid out

The reading of a text goes one way, from the text to its tokens. The other way
there is a choice: tokens can stand apart by any blanks, and a line can end in a
comment. `Laid` names the texts that lay out given tokens, and the tokens of a
text are exactly the ones that it lays out.

- `Text.words_append`: the words of two texts, the second of which begins with a
  blank, are those of the first and those of the second. All else about words
  follows from this.
- `uncomment_append`: a text without `#` keeps its characters.
- `Laid`: texts with blanks and comments between them, `IsToken`: what a token may
  be.
- `tokens_eq_iff`: a text has the tokens that it lays out, and no others.
-/

namespace Keymap

namespace Text

/-! ## Words -/

@[simp] theorem words_nil : words [] = [] := rfl

/-- A blank closes the open word. -/
theorem wordStep_blank {c : Char} (hc : isBlank c = true) (cs : List Char) :
    wordStep c (cs.foldr wordStep ([], [])) = ([], words cs) := by
  unfold words
  rcases cs.foldr wordStep ([], []) with ⟨_ | ⟨d, word⟩, done⟩
  · simp [wordStep, hc]
  · simp [wordStep, hc]

/-- Finished words stay behind the ones that are read after them. -/
theorem foldr_wordStep_done (cs : List Char) (done : List (List Char)) :
    cs.foldr wordStep ([], done) =
      ((cs.foldr wordStep ([], [])).1, (cs.foldr wordStep ([], [])).2 ++ done) := by
  induction cs with
  | nil => rfl
  | cons c cs ih =>
    rw [List.foldr_cons, ih, List.foldr_cons]
    rcases cs.foldr wordStep ([], []) with ⟨_ | ⟨d, word⟩, first⟩ <;>
      by_cases hc : isBlank c <;> simp [wordStep, hc]

/-- A blank, or the end of the text, parts the words on its two sides. -/
theorem words_append {y : List Char} (hy : ∀ c ∈ y.head?, isBlank c = true) (x : List Char) :
    words (x ++ y) = words x ++ words y := by
  match y, hy with
  | [], _ => simp
  | c :: rest, hy =>
    have hc : isBlank c = true := hy c rfl
    have hopen : (c :: rest).foldr wordStep ([], []) = ([], words rest) :=
      wordStep_blank hc rest
    have hback : words (c :: rest) = words rest := by
      rw [words, hopen]
    rw [hback, words, List.foldr_append, hopen, foldr_wordStep_done]
    unfold words
    rcases x.foldr wordStep ([], []) with ⟨_ | ⟨d, word⟩, done⟩
    · rfl
    · rfl

/-- A blank in front belongs to no word. -/
theorem words_cons_blank {c : Char} (hc : isBlank c = true) (cs : List Char) :
    words (c :: cs) = words cs := by
  rw [words, List.foldr_cons, wordStep_blank hc]

/-- The word that is still open when only characters of one word were read. -/
theorem foldr_wordStep_word {word : List Char} (hword : ∀ c ∈ word, isBlank c = false) :
    word.foldr wordStep ([], []) = (word, []) := by
  induction word with
  | nil => rfl
  | cons c rest ih =>
    obtain ⟨hc, hrest⟩ := List.forall_mem_cons.mp hword
    rw [List.foldr_cons, ih hrest]
    cases rest <;> simp [wordStep, hc]

/-- A text without blanks is one word. -/
theorem words_word {word : List Char} (hne : word ≠ [])
    (hword : ∀ c ∈ word, isBlank c = false) : words word = [word] := by
  rw [words, foldr_wordStep_word hword]
  cases word with
  | nil => exact absurd rfl hne
  | cons c rest => rfl

theorem isBlank_newline : isBlank '\n' = true := by decide

theorem isBlank_hash : isBlank '#' = false := by decide

end Text

namespace Script

open Text

/-! ## Comments -/

/-- Outside comments a text without `#` is kept. -/
theorem uncomment_append {x : List Char} (hx : '#' ∉ x) (y : List Char) :
    uncomment false (x ++ y) = x ++ uncomment false y := by
  induction x with
  | nil => rfl
  | cons c rest ih =>
    obtain ⟨hc, hrest⟩ := not_or.mp (mt List.mem_cons.mpr hx)
    rw [List.cons_append, uncomment, List.cons_append, ih hrest]
    by_cases hline : c = '\n'
    · rw [if_pos hline]
    · rw [if_neg hline, if_neg (by simpa using Ne.symm hc)]

/-- Inside a comment everything up to the end of the line is dropped. -/
theorem uncomment_comment {x : List Char} (hx : '\n' ∉ x) (y : List Char) :
    uncomment true (x ++ y) = uncomment true y := by
  induction x with
  | nil => rfl
  | cons c rest ih =>
    obtain ⟨hc, hrest⟩ := not_or.mp (mt List.mem_cons.mpr hx)
    rw [List.cons_append, uncomment, if_neg (Ne.symm hc)]
    exact ih hrest

/-- What stands at the end of a line, or of the text. -/
def LineEnd (cs : List Char) : Prop :=
  ∀ c ∈ cs.head?, c = '\n'

/-- The end of a line ends a comment. -/
theorem uncomment_lineEnd {cs : List Char} (h : LineEnd cs) :
    uncomment true cs = uncomment false cs := by
  cases cs with
  | nil => rfl
  | cons c rest =>
    have hc : c = '\n' := h c rfl
    rw [uncomment, uncomment, if_pos hc, if_pos hc]

/-- What is left of a comment begins with the end of the line. -/
theorem lineEnd_uncomment (cs : List Char) : LineEnd (uncomment true cs) := by
  induction cs with
  | nil => simp [LineEnd, uncomment]
  | cons c rest ih =>
    by_cases hc : c = '\n'
    · simp [LineEnd, uncomment, hc]
    · rw [uncomment, if_neg hc]
      exact ih

/-! ## Layouts -/

/-- A character of tokens: not white space, and no beginning of a comment. -/
def IsTokenChar (c : Char) : Prop :=
  isBlank c = false ∧ c ≠ '#'

instance : DecidablePred IsTokenChar :=
  fun c => inferInstanceAs (Decidable (isBlank c = false ∧ c ≠ '#'))

/-- What a token may be. -/
structure IsToken (token : List Char) : Prop where
  nonempty : token ≠ []
  chars : ∀ c ∈ token, IsTokenChar c

/-- What can stand behind a token: a blank, a comment, or nothing. -/
def Parted (cs : List Char) : Prop :=
  ∀ c ∈ cs.head?, ¬IsTokenChar c

/-- `Laid tokens cs`: the text `cs` is the tokens in order, parted by white
space, with comments at the ends of lines. White space and comments may also
stand in front of the first token and behind the last. -/
inductive Laid : List (List Char) → List Char → Prop
  | nil : Laid [] []
  | blank {c : Char} {tokens : List (List Char)} {cs : List Char} :
      isBlank c = true → Laid tokens cs → Laid tokens (c :: cs)
  | comment {text : List Char} {tokens : List (List Char)} {cs : List Char} :
      '\n' ∉ text → LineEnd cs → Laid tokens cs → Laid tokens ('#' :: (text ++ cs))
  | token (token : List Char) {tokens : List (List Char)} {cs : List Char} :
      Parted cs → Laid tokens cs → Laid (token :: tokens) (token ++ cs)

/-- Behind a token, what the comments leave begins with a blank. -/
theorem isBlank_uncomment_of_parted {cs : List Char} (h : Parted cs) :
    ∀ c ∈ (uncomment false cs).head?, isBlank c = true := by
  match cs, h with
  | [], _ => simp [uncomment]
  | c :: rest, h =>
    by_cases hline : c = '\n'
    · subst hline
      simp [uncomment, isBlank_newline]
    · by_cases hhash : c = '#'
      · subst hhash
        show ∀ d ∈ (uncomment true rest).head?, isBlank d = true
        intro d hd
        rw [lineEnd_uncomment rest d hd]
        exact isBlank_newline
      · have hblank : isBlank c = true := by
          simpa [IsTokenChar, hhash] using h c rfl
        simp [uncomment, hline, hhash, hblank]

/-- A layout of tokens is read as these tokens. -/
theorem words_of_laid {tokens : List (List Char)} {cs : List Char} (h : Laid tokens cs)
    (htokens : ∀ token ∈ tokens, IsToken token) : words (uncomment false cs) = tokens := by
  induction h with
  | nil => rfl
  | @blank c _ cs hc _ ih =>
    have hhash : '#' ∉ [c] := by
      intro hmem
      rw [← List.mem_singleton.mp hmem, isBlank_hash] at hc
      exact Bool.noConfusion hc
    rw [← List.singleton_append, uncomment_append hhash, List.singleton_append,
      words_cons_blank hc, ih htokens]
  | @comment text _ cs htext hcs _ ih =>
    have hopen : uncomment false ('#' :: (text ++ cs)) = uncomment true (text ++ cs) := rfl
    rw [hopen, uncomment_comment htext, uncomment_lineEnd hcs, ih htokens]
  | token token hparted _ ih =>
    obtain ⟨htoken, hrest⟩ := List.forall_mem_cons.mp htokens
    rw [uncomment_append fun hmem => (htoken.chars '#' hmem).2 rfl,
      words_append (isBlank_uncomment_of_parted hparted),
      words_word htoken.nonempty fun c hc => (htoken.chars c hc).1, ih hrest]
    rfl

/-- A text begins with a longest run of characters that pass a test. -/
theorem exists_run (test : Char → Prop) [DecidablePred test] (cs : List Char) :
    ∃ run rest, cs = run ++ rest ∧ (∀ c ∈ run, test c) ∧ ∀ c ∈ rest.head?, ¬test c := by
  induction cs with
  | nil => exact ⟨[], [], rfl, by simp, by simp⟩
  | cons c cs ih =>
    by_cases hc : test c
    · obtain ⟨run, rest, rfl, hrun, hrest⟩ := ih
      exact ⟨c :: run, rest, rfl, List.forall_mem_cons.mpr ⟨hc, hrun⟩, hrest⟩
    · exact ⟨[], c :: cs, rfl, by simp, by simpa using hc⟩

/-- Every text lays out some tokens: a blank, a comment or a token comes first,
and each of them leaves less to read. -/
theorem exists_laid (cs : List Char) :
    ∃ tokens, Laid tokens cs ∧ ∀ token ∈ tokens, IsToken token := by
  match cs with
  | [] => exact ⟨[], .nil, by simp⟩
  | c :: rest =>
    by_cases hblank : isBlank c = true
    · obtain ⟨tokens, h, htokens⟩ := exists_laid rest
      exact ⟨tokens, .blank hblank h, htokens⟩
    by_cases hhash : c = '#'
    · obtain ⟨text, behind, hrest, htext, hend⟩ := exists_run (· ≠ '\n') rest
      have hshorter : behind.length ≤ rest.length := by simp [hrest]
      obtain ⟨tokens, h, htokens⟩ := exists_laid behind
      rw [hhash, hrest]
      refine ⟨tokens, .comment ?_ ?_ h, htokens⟩
      · intro hmem
        exact htext _ hmem rfl
      · intro d hd
        exact Decidable.not_not.mp (hend d hd)
    · obtain ⟨more, behind, hrest, hmore, hend⟩ := exists_run IsTokenChar rest
      have hshorter : behind.length ≤ rest.length := by simp [hrest]
      obtain ⟨tokens, h, htokens⟩ := exists_laid behind
      have hc : IsTokenChar c := ⟨Bool.eq_false_iff.mpr hblank, hhash⟩
      have htoken : IsToken (c :: more) :=
        ⟨List.cons_ne_nil c more, List.forall_mem_cons.mpr ⟨hc, hmore⟩⟩
      rw [hrest]
      exact ⟨(c :: more) :: tokens, .token (c :: more) hend h,
        List.forall_mem_cons.mpr ⟨htoken, htokens⟩⟩
termination_by cs.length

/-- **The tokens of a text** are the ones that it lays out. -/
theorem tokens_eq_iff {text : String} {ts : List (List Char)} :
    tokens text = ts ↔ Laid ts text.toList ∧ ∀ token ∈ ts, IsToken token := by
  constructor
  · rintro rfl
    obtain ⟨ts, h, hts⟩ := exists_laid text.toList
    rw [tokens, words_of_laid h hts]
    exact ⟨h, hts⟩
  · rintro ⟨h, hts⟩
    exact words_of_laid h hts

end Script

end Keymap
