import Mathlib
import Keymap.Expansion.Fragment
import Keymap.Proofs.SplitLine

/-!
# What a fragment does to the line

A fragment is typed in the middle of a line, wherever the cursor stands: its backspaces take
away the end of what stands before the cursor, and its text comes there, cased as a whole, at
the front or not at all.

- `Text.capital`, `FragmentCase.typed`: **the reference**, the characters that a fragment comes
  to.
- `SplitLine.joined_backspaces`, `SplitLine.joined_text`: what the two parts of a fragment do
  where the parts of the line meet.
- `Editor.emitAll_typeFragment`: **a fragment changes what stands before the cursor and nothing
  else**.
-/

namespace Keymap

/-! ## The reference -/

/-- The capital of a small ASCII letter; any other character is its own. -/
def Text.capital (c : Char) : Char :=
  if 'a' ≤ c ∧ c ≤ 'z' then Char.ofNat (c.toNat - 32) else c

theorem Text.toUpper_eq_capital (c : Char) : c.toUpper = capital c := by
  have hlower : c.isLower = true ↔ 'a' ≤ c ∧ c ≤ 'z' := by
    simp [Char.isLower, Char.le_def]
  unfold capital
  by_cases h : 'a' ≤ c ∧ c ≤ 'z'
  · rw [if_pos h, Char.toUpper_eq_of_isLower (hlower.mpr h)]
  · rw [if_neg h, Char.toUpper_eq_of_not_isLower (mt hlower.mp h)]

namespace FragmentCase

/-- The characters that a fragment comes to: all of them as capitals if it is shifted, or else
the first of them if a capital is asked for. -/
def typed (case : FragmentCase) (text : List Char) : List Char :=
  if case.shifted then text.map Text.capital
  else if case.capitalise then text.modifyHead Text.capital
  else text

/-- What is sent of a fragment, and how, comes to the reference. -/
theorem map_cased_apply (case : FragmentCase) (text : String) :
    (case.apply text).toList.map (Editor.cased case.shifted) = case.typed text.toList := by
  have hcapital : Editor.cased true = Text.capital := funext Text.toUpper_eq_capital
  have hplain : Editor.cased false = id := rfl
  obtain ⟨shifted, capitalise⟩ := case
  cases shifted with
  | true =>
    have happly : apply ⟨true, capitalise⟩ text = text := by cases capitalise <;> rfl
    rw [happly, hcapital]
    rfl
  | false =>
    rw [hplain, List.map_id]
    cases capitalise with
    | false => rfl
    | true =>
      show (String.ofList (capitaliseFirst text.toList)).toList =
        text.toList.modifyHead Text.capital
      rw [String.toList_ofList]
      cases text.toList with
      | nil => rfl
      | cons c rest => exact congrArg (· :: rest) (Text.toUpper_eq_capital c)

end FragmentCase

/-! ## The two parts of a fragment -/

namespace SplitLine

variable (line : SplitLine) (mods : ModMask)

/-- Backspaces take away the end of what stands before the cursor. -/
theorem joined_backspaces (n : Nat) :
    (line.joined mods).emitAll (List.replicate n (.tap .backspace ∅)) =
      { line with left := line.left.rdrop n }.joined mods := by
  induction n generalizing line with
  | zero => rw [List.rdrop_zero]; rfl
  | succ n ih =>
    have hfirst : (line.joined mods).emit (.tap .backspace ∅) =
        { line with left := line.left.dropLast }.joined mods := line.joined_eraseBack mods
    have hdrop : line.left.dropLast.rdrop n = line.left.rdrop (n + 1) := by
      obtain hnil | ⟨front, c, hfront⟩ := List.eq_nil_or_concat line.left
      · rw [hnil, List.dropLast_nil, List.rdrop_nil, List.rdrop_nil]
      · rw [hfront, List.concat_eq_append, List.dropLast_concat, List.rdrop_concat_succ]
    rw [List.replicate_succ, Editor.emitAll_cons, hfirst, ih]
    show SplitLine.joined ⟨line.left.dropLast.rdrop n, line.right⟩ mods = _
    rw [hdrop]

/-- Characters that are typed come to stand before the cursor, in order. -/
theorem editAll_type (text : List Char) :
    line.editAll (text.map .type) = { line with left := line.left ++ text } := by
  induction text generalizing line with
  | nil => rw [List.append_nil]; rfl
  | cons c rest ih =>
    show ({ line with left := line.left ++ [c] } : SplitLine).editAll (rest.map .type) = _
    rw [ih]
    show SplitLine.mk (line.left ++ [c] ++ rest) line.right = _
    rw [List.append_assoc]
    rfl

/-- A text comes to stand before the cursor. -/
theorem joined_text (text : String) (shifted : Bool) :
    (line.joined mods).emit (.text text shifted) =
      { line with left := line.left ++ text.toList.map (Editor.cased shifted) }.joined mods := by
  -- a text is typed one character at a time
  have hedits (typed : List Char) (editor : Editor) :
      typed.foldl Editor.insert editor = editor.editAll (typed.map .type) := by
    unfold Editor.editAll
    rw [List.foldl_map]
    rfl
  rw [← editAll_type, ← joined_editAll]
  exact hedits _ _

end SplitLine

/-- **A fragment changes what stands before the cursor and nothing else.** Whatever stands before
and behind the cursor and whatever is held, the backspaces drop that many characters at the end
of what stands before the cursor, or all if there are fewer, and the text comes after what is
left, cased as it is to be. What stands behind the cursor and what is held stay. -/
theorem Editor.emitAll_typeFragment (text : String) (backspaces : Nat) (case : FragmentCase)
    (line : SplitLine) (mods : ModMask) :
    (line.joined mods).emitAll (typeFragment text backspaces case) =
      { left := line.left.rdrop backspaces ++ case.typed text.toList
        right := line.right : SplitLine }.joined mods := by
  rw [typeFragment, emitAll_append, SplitLine.joined_backspaces, emitAll_cons, emitAll_nil,
    SplitLine.joined_text, FragmentCase.map_cased_apply]

example : (SplitLine.joined ⟨['o', 'k', ' '], [')']⟩ ∅).emitAll
    (typeFragment "élan" 5 { capitalise := true }) =
      SplitLine.joined ⟨['é', 'l', 'a', 'n'], [')']⟩ ∅ := by
  decide

end Keymap
