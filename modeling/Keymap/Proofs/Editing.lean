import Keymap.Editor

/-!
# What is typed stands before the cursor

The editor is driven by outputs. Whatever they are, the cursor stays inside the
line; what is typed comes to stand just before it.

- `Editor.InLine`: the cursor is inside the line. Every output keeps it there.
- `Editor.before?`: the character just before the cursor.
- `Editor.before?_insert`, `Editor.before?_insertAll`: **the last character of a
  typed text stands before the cursor**.
- `Editor.press_glyph`, `Editor.transition_modifier`: what a key does that types a
  character, and what one does that holds a modifier.
-/

namespace Keymap

/-- A key that types a character without shift types one with shift as well. -/
theorem Key.char?_of_char? {key : Key} {one : Bool} {c : Char} (h : key.char? one = some c)
    (other : Bool) : ∃ c', key.char? other = some c' := by
  unfold char? at h ⊢
  obtain ⟨glyphs, hglyphs, -⟩ := Option.map_eq_some_iff.mp h
  exact ⟨_, by rw [hglyphs]; rfl⟩

/-- A key that types a character holds no modifier. -/
theorem Key.modifier?_of_char? {key : Key} {shifted : Bool} {c : Char}
    (h : key.char? shifted = some c) : key.modifier? = none := by
  cases key <;> first | rfl | cases h

namespace Editor

/-- The cursor is inside the line. -/
def InLine (editor : Editor) : Prop :=
  editor.cursor ≤ editor.chars.length

/-- The character just before the cursor, unless that is at the start. -/
def before? (editor : Editor) : Option Char :=
  if editor.cursor = 0 then none else editor.chars[editor.cursor - 1]?

variable {editor : Editor} {c : Char}

/-! ## Insertion -/

theorem InLine.insert (h : editor.InLine) (c : Char) : (editor.insert c).InLine := by
  show editor.cursor + 1 ≤ (editor.chars.insertIdx editor.cursor c).length
  rw [List.length_insertIdx_of_le_length h]
  exact Nat.succ_le_succ h

theorem InLine.insertAll (h : editor.InLine) (text : List Char) :
    (text.foldl Editor.insert editor).InLine := by
  induction text generalizing editor with
  | nil => exact h
  | cons c rest ih => exact ih (h.insert c)

theorem before?_insert (h : editor.InLine) : (editor.insert c).before? = some c := by
  show (if editor.cursor + 1 = 0 then none
    else (editor.chars.insertIdx editor.cursor c)[editor.cursor + 1 - 1]?) = some c
  rw [if_neg (Nat.succ_ne_zero _), Nat.add_sub_cancel, List.getElem?_insertIdx,
    if_neg (Nat.lt_irrefl _), if_pos rfl]
  exact if_pos h

/-- A character that is typed and stepped back over is not before the cursor. -/
theorem before?_insert_left (h : editor.InLine) :
    ((editor.insert c).moveTo ((editor.insert c).cursor - 1)).before? = editor.before? := by
  have hcursor : min (editor.cursor + 1 - 1) (editor.insert c).chars.length = editor.cursor := by
    rw [Nat.add_sub_cancel]
    exact Nat.min_eq_left (Nat.le_of_succ_le (h.insert c))
  unfold before?
  show (if min (editor.cursor + 1 - 1) (editor.insert c).chars.length = 0 then none
    else (editor.insert c).chars[min (editor.cursor + 1 - 1) _ - 1]?) = _
  rw [hcursor]
  by_cases hstart : editor.cursor = 0
  · rw [if_pos hstart, if_pos hstart]
  · rw [if_neg hstart, if_neg hstart]
    show (editor.chars.insertIdx editor.cursor c)[editor.cursor - 1]? = _
    rw [List.getElem?_insertIdx, if_pos (Nat.sub_one_lt hstart)]

/-- **The last character of a typed text stands before the cursor.** -/
theorem before?_insertAll (h : editor.InLine) {text : List Char} (hne : text ≠ []) :
    (text.foldl insert editor).before? = text.getLast? := by
  obtain ⟨front, last, rfl⟩ := (List.eq_nil_or_concat text).resolve_left hne
  rw [List.concat_eq_append, List.foldl_append, List.getLast?_concat]
  exact before?_insert (h.insertAll front)

/-- At the end of the line a character is typed behind all others. -/
theorem insert_at_end (h : editor.cursor = editor.chars.length) (c : Char) :
    editor.insert c =
      { editor with chars := editor.chars ++ [c], cursor := editor.cursor + 1 } := by
  unfold insert
  rw [h, List.insertIdx_length_self]

/-! ## Keys -/

/-- A key that types a character does so unless it is a shortcut. -/
theorem press_glyph {key : Key} {mods : ModMask} (hmods : mods.hasNonShift = false)
    (hglyph : key.char? mods.anyShift = some c) : editor.press key mods = editor.insert c := by
  unfold press
  split
  case h_11 => rw [hmods, hglyph]; rfl
  -- a key that types a character does not edit
  all_goals cases hglyph

/-- The key of a modifier changes what is held and nothing else. -/
theorem transition_modifier {key : Key} {m : Modifier} (h : key.modifier? = some m)
    (action : Action) (extra : ModMask) :
    editor.transition key action extra =
      { editor with held := (editor.transition key action extra).held } := by
  unfold transition
  rw [h]
  cases action <;> rfl

/-- A key that holds no modifier comes up unnoticed. -/
theorem transition_release {key : Key} (h : key.modifier? = none) (extra : ModMask) :
    editor.transition key .release extra = editor := by
  unfold transition
  rw [h]

theorem transition_press {key : Key} (h : key.modifier? = none) (extra : ModMask) :
    editor.transition key .press extra = editor.press key (editor.held ∪ extra) := by
  unfold transition
  rw [h]

/-! ## Outputs -/

@[simp] theorem emitAll_nil (editor : Editor) : editor.emitAll [] = editor := rfl

@[simp] theorem emitAll_cons (editor : Editor) (output : Output) (rest : List Output) :
    editor.emitAll (output :: rest) = (editor.emit output).emitAll rest := rfl

theorem emitAll_append (editor : Editor) (front back : List Output) :
    editor.emitAll (front ++ back) = (editor.emitAll front).emitAll back :=
  List.foldl_append

theorem InLine.press (h : editor.InLine) (key : Key) (mods : ModMask) :
    (editor.press key mods).InLine := by
  have hmove (n : Nat) : (editor.moveTo n).InLine := Nat.min_le_right _ _
  unfold Editor.press
  split
  case h_1 =>
    unfold backspace
    split
    · exact h
    · next hcursor =>
      show editor.cursor - 1 ≤ (editor.chars.eraseIdx (editor.cursor - 1)).length
      unfold InLine at h
      rw [List.length_eraseIdx_of_lt (by omega)]
      omega
  case h_2 =>
    show editor.cursor ≤ (editor.chars.eraseIdx editor.cursor).length
    unfold InLine at h
    rw [List.length_eraseIdx]
    split <;> omega
  case h_11 =>
    split
    · exact h
    · split
      · exact h.insert _
      · exact h
  all_goals exact hmove _

/-- **Every output keeps the cursor inside the line.** -/
theorem InLine.emit (h : editor.InLine) (output : Output) : (editor.emit output).InLine := by
  cases output with
  | tap key mods => exact h.press key mods
  | text chars shifted => exact h.insertAll _
  | forward key action extra =>
    show (editor.transition key action extra).InLine
    cases hkey : key.modifier? with
    | some m =>
      rw [transition_modifier hkey]
      exact h
    | none =>
      cases action with
      | press =>
        rw [transition_press hkey]
        exact h.press key _
      | release =>
        rw [transition_release hkey]
        exact h

theorem InLine.emitAll (h : editor.InLine) (outputs : List Output) :
    (editor.emitAll outputs).InLine := by
  induction outputs generalizing editor with
  | nil => exact h
  | cons output rest ih => exact ih (h.emit output)

end Editor

end Keymap
