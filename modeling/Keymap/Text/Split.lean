/-!
# Splitting at a separator

- `splitOn`: the parts between the occurrences of a character, the empty ones
  included.
- `splitOn_append`: a part without the separator comes off the front.
- `splitOn_eq_cons`: the first part.
-/

namespace Keymap.Text

/-- Puts a character in front of the first part. -/
def consHead (c : Char) : List (List Char) → List (List Char)
  | part :: parts => (c :: part) :: parts
  | [] => [[c]]

/-- The parts of a text between the occurrences of `sep`. There is always at
least one. -/
def splitOn (sep : Char) : List Char → List (List Char)
  | [] => [[]]
  | c :: cs => if c = sep then [] :: splitOn sep cs else consHead c (splitOn sep cs)

/-- A text without the separator is one part. -/
theorem splitOn_of_not_mem {sep : Char} {part : List Char} (h : sep ∉ part) :
    splitOn sep part = [part] := by
  induction part with
  | nil => rfl
  | cons c cs ih =>
    obtain ⟨hc, hcs⟩ := not_or.mp (mt List.mem_cons.mpr h)
    rw [splitOn, if_neg (Ne.symm hc), ih hcs, consHead]

/-- The part in front of a separator is split off. -/
theorem splitOn_append {sep : Char} {part : List Char} (h : sep ∉ part) (rest : List Char) :
    splitOn sep (part ++ sep :: rest) = part :: splitOn sep rest := by
  induction part with
  | nil => simp [splitOn]
  | cons c cs ih =>
    obtain ⟨hc, hcs⟩ := not_or.mp (mt List.mem_cons.mpr h)
    rw [List.cons_append, splitOn, if_neg (Ne.symm hc), ih hcs, consHead]

/-- The first part goes up to the first separator. -/
theorem splitOn_eq_cons (sep : Char) (cs : List Char) :
    ∃ parts, splitOn sep cs = cs.takeWhile (· != sep) :: parts := by
  induction cs with
  | nil => exact ⟨[], rfl⟩
  | cons c cs ih =>
    by_cases hc : c = sep
    · refine ⟨splitOn sep cs, ?_⟩
      rw [splitOn, if_pos hc, List.takeWhile_cons, if_neg (by simpa using hc)]
    · obtain ⟨parts, hparts⟩ := ih
      refine ⟨parts, ?_⟩
      rw [splitOn, if_neg hc, hparts, consHead, List.takeWhile_cons, if_pos (bne_iff_ne.mpr hc)]

end Keymap.Text
