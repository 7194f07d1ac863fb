import Keymap.Proofs.Editing
import Keymap.Proofs.Host

/-!
# The line in two parts

The editor keeps a line and a position in it. A line that is parted at the cursor needs no
position: what is typed and erased stands at the ends that meet there.

- `Edit`, `Key.edit?`, `Output.edits`: what can be done at the cursor, and what a key or an
  output does of it.
- `SplitLine`, `SplitLine.edit`: a line in two parts, and what an edit does to them.
- `SplitLine.joined_edit`: the editor does the same to the line as a whole.
- `SplitEditor`: an editor of a line in two parts.
- `Editor.obeyAll_split`: **the editor is one of a line in two parts**, and never leaves
  the line.
-/

namespace Keymap

open Stroke

/-! ## Edits -/

/-- What can be done to a line at the cursor. -/
inductive Edit where
  | type (c : Char)
  | eraseBack
  | eraseNext
  | stepBack
  | stepOn
  | toStart
  | toEnd
  deriving DecidableEq

/-- What a key does that does not type, whatever is held. -/
def Key.editing? : Key → Option Edit
  | .backspace => some .eraseBack
  | .delete => some .eraseNext
  | .left => some .stepBack
  | .right => some .stepOn
  | .home | .up | .pageUp => some .toStart
  | .endKey | .down | .pageDown => some .toEnd
  | _ => none

/-- What a key does that goes down while `mods` are held. A key types its character,
unless it is a shortcut. -/
def Key.edit? (key : Key) (mods : ModMask) : Option Edit :=
  match key.editing? with
  | some edit => some edit
  | none => if mods.hasNonShift then none else (key.char? mods.anyShift).map .type

/-- The key of a modifier does nothing at the cursor. -/
theorem Key.edit?_of_modifier? {key : Key} {m : Modifier} (h : key.modifier? = some m)
    (mods : ModMask) : key.edit? mods = none := by
  obtain rfl := Key.eq_key_of_modifier? h
  unfold Key.edit?
  cases mods.hasNonShift <;> cases m <;> rfl

/-- What an output does while `held` are held, in order. -/
def Output.edits (held : ModMask) : Output → List Edit
  | .forward key .press extra => (key.edit? (held ∪ extra)).toList
  | .forward _ .release _ => []
  | .tap key mods => (key.edit? mods).toList
  | .text chars shifted => chars.toList.map fun c => .type (if shifted then c.toUpper else c)

namespace Editor

/-- What an edit does to the line. -/
def edit (editor : Editor) : Edit → Editor
  | .type c => editor.insert c
  | .eraseBack => editor.backspace
  | .eraseNext => editor.delete
  | .stepBack => editor.moveTo (editor.cursor - 1)
  | .stepOn => editor.moveTo (editor.cursor + 1)
  | .toStart => editor.moveTo 0
  | .toEnd => editor.moveTo editor.chars.length

/-- Edits in order. -/
def editAll (editor : Editor) (edits : List Edit) : Editor :=
  edits.foldl edit editor

theorem press_eq_editAll (editor : Editor) (key : Key) (mods : ModMask) :
    editor.press key mods = editor.editAll (key.edit? mods).toList := by
  unfold press
  split
  case h_11 =>
    have htypes : key.editing? = none := by
      unfold Key.editing?
      split <;> first | rfl | contradiction
    unfold Key.edit?
    rw [htypes]
    cases mods.hasNonShift with
    | true => rfl
    | false => cases key.char? mods.anyShift <;> rfl
  all_goals rfl

/-- The editor with other modifiers held. -/
def holding (editor : Editor) (mods : ModMask) : Editor :=
  { editor with held := mods }

/-- An output leads to its edits, one by one, and changes nothing else but what is held. -/
theorem emit_eq_editAll (editor : Editor) (output : Output) :
    editor.emit output =
      (editor.editAll (output.edits editor.held)).holding (editor.emit output).held := by
  cases output with
  | tap key mods =>
    have hpress := editor.press_eq_editAll key mods
    show editor.press key mods = (editor.editAll _).holding (editor.press key mods).held
    rw [hpress]
    rfl
  | text chars shifted =>
    have htyped : editor.emit (.text chars shifted) =
        editor.editAll (Output.edits editor.held (.text chars shifted)) := by
      show (chars.toList.map (cased shifted)).foldl insert editor =
        (chars.toList.map _).foldl edit editor
      rw [List.foldl_map, List.foldl_map]
      rfl
    rw [htyped]
    rfl
  | forward key action extra =>
    show editor.transition key action extra =
      (editor.editAll _).holding (editor.transition key action extra).held
    cases hkey : key.modifier? with
    | some m =>
      have hnone : Output.edits editor.held (.forward key action extra) = [] := by
        cases action with
        | press => exact congrArg Option.toList (Key.edit?_of_modifier? hkey _)
        | release => rfl
      rw [hnone]
      exact transition_modifier hkey action extra
    | none =>
      cases action with
      | press =>
        have hpress := editor.press_eq_editAll key (editor.held ∪ extra)
        rw [transition_press hkey, hpress]
        rfl
      | release =>
        rw [transition_release hkey]
        rfl

end Editor

/-! ## A line in two parts -/

/-- A line that is parted at the cursor. -/
structure SplitLine where
  /-- What stands before the cursor. -/
  left : List Char := []
  /-- What stands behind it. -/
  right : List Char := []
  deriving DecidableEq

namespace SplitLine

/-- What an edit does where the two parts meet. -/
def edit (line : SplitLine) : Edit → SplitLine
  | .type c => { line with left := line.left ++ [c] }
  | .eraseBack => { line with left := line.left.dropLast }
  | .eraseNext => { line with right := line.right.tail }
  | .stepBack =>
    match line.left.getLast? with
    | some c => { left := line.left.dropLast, right := c :: line.right }
    | none => line
  | .stepOn =>
    match line.right with
    | c :: rest => { left := line.left ++ [c], right := rest }
    | [] => line
  | .toStart => { left := [], right := line.left ++ line.right }
  | .toEnd => { left := line.left ++ line.right, right := [] }

/-- Edits in order. -/
def editAll (line : SplitLine) (edits : List Edit) : SplitLine :=
  edits.foldl edit line

/-- The editor with the parts as one line and the cursor where they meet. -/
def joined (line : SplitLine) (mods : ModMask) : Editor where
  chars := line.left ++ line.right
  cursor := line.left.length
  held := mods

variable (line : SplitLine) (mods : ModMask)

theorem joined_type (c : Char) :
    (line.joined mods).insert c = (line.edit (.type c)).joined mods := by
  have hchars : (line.left ++ line.right).insertIdx line.left.length c =
      line.left ++ [c] ++ line.right := by
    rw [List.append_assoc]
    exact List.modifyTailIdx_add (List.cons c) 0 line.left line.right
  have hcursor : line.left.length + 1 = (line.left ++ [c]).length := by
    rw [List.length_append, List.length_singleton]
  unfold joined Editor.insert edit
  rw [hchars, hcursor]

theorem joined_eraseBack :
    (line.joined mods).backspace = (line.edit .eraseBack).joined mods := by
  obtain ⟨left, right⟩ := line
  obtain rfl | ⟨front, c, rfl⟩ := List.eq_nil_or_concat left
  · rfl
  · rw [List.concat_eq_append]
    have hchars : (front ++ [c] ++ right).eraseIdx front.length = front ++ right := by
      rw [List.append_assoc, List.eraseIdx_append_of_length_le (Nat.le_refl _), Nat.sub_self]
      rfl
    have hcursor : (front ++ [c]).length = front.length + 1 := List.length_append
    unfold joined Editor.backspace edit
    simp only [hcursor, if_neg (Nat.succ_ne_zero _), Nat.add_sub_cancel, hchars,
      List.dropLast_concat]

theorem joined_eraseNext :
    (line.joined mods).delete = (line.edit .eraseNext).joined mods := by
  have hchars : (line.left ++ line.right).eraseIdx line.left.length =
      line.left ++ line.right.tail := by
    rw [List.eraseIdx_append_of_length_le (Nat.le_refl _), Nat.sub_self, List.eraseIdx_zero]
  unfold joined Editor.delete edit
  rw [hchars]

/-- A move within the line only parts it elsewhere. -/
theorem joined_moveTo {other : SplitLine} {n : Nat}
    (hwhole : line.left ++ line.right = other.left ++ other.right)
    (hplace : min n (line.left ++ line.right).length = other.left.length) :
    (line.joined mods).moveTo n = other.joined mods := by
  unfold joined Editor.moveTo
  rw [hplace, hwhole]

theorem joined_stepBack :
    (line.joined mods).edit .stepBack = (line.edit .stepBack).joined mods := by
  obtain ⟨left, right⟩ := line
  obtain rfl | ⟨front, c, rfl⟩ := List.eq_nil_or_concat left
  · exact joined_moveTo _ mods rfl (Nat.zero_min _)
  · rw [List.concat_eq_append]
    have hline : edit ⟨front ++ [c], right⟩ .stepBack = ⟨front, c :: right⟩ := by
      simp only [edit, List.getLast?_concat, List.dropLast_concat]
    rw [hline]
    refine joined_moveTo _ mods (List.append_assoc ..) ?_
    show min ((front ++ [c]).length - 1) (front ++ [c] ++ right).length = front.length
    simp only [List.length_append, List.length_singleton]
    omega

theorem joined_stepOn :
    (line.joined mods).edit .stepOn = (line.edit .stepOn).joined mods := by
  obtain ⟨left, right⟩ := line
  cases right with
  | nil =>
    refine joined_moveTo _ mods rfl ?_
    show min (left.length + 1) (left ++ []).length = left.length
    rw [List.append_nil]
    exact Nat.min_eq_right (Nat.le_succ _)
  | cons c rest =>
    refine joined_moveTo _ mods (List.append_assoc left [c] rest).symm ?_
    show min (left.length + 1) (left ++ c :: rest).length = (left ++ [c]).length
    simp only [List.length_append, List.length_cons, List.length_nil]
    omega

/-- **The editor does to the whole line what is done where its parts meet.** -/
theorem joined_edit (edit : Edit) :
    (line.joined mods).edit edit = (line.edit edit).joined mods := by
  cases edit with
  | type c => exact line.joined_type mods c
  | eraseBack => exact line.joined_eraseBack mods
  | eraseNext => exact line.joined_eraseNext mods
  | stepBack => exact line.joined_stepBack mods
  | stepOn => exact line.joined_stepOn mods
  | toStart => exact line.joined_moveTo mods rfl (Nat.zero_min _)
  | toEnd => exact line.joined_moveTo mods (List.append_nil _).symm (Nat.min_self _)

theorem joined_editAll (edits : List Edit) :
    (line.joined mods).editAll edits = (line.editAll edits).joined mods := by
  induction edits generalizing line with
  | nil => rfl
  | cons edit rest ih =>
    show ((line.joined mods).edit edit).editAll rest = ((line.edit edit).editAll rest).joined mods
    rw [joined_edit, ih]

/-- The cursor is in the line where its parts meet. -/
theorem inLine_joined : (line.joined mods).InLine := by
  show line.left.length ≤ (line.left ++ line.right).length
  rw [List.length_append]
  exact Nat.le_add_right _ _

theorem display_joined :
    (line.joined mods).display = String.ofList (line.left ++ '|' :: line.right) := by
  unfold Editor.display joined
  rw [List.take_left, List.drop_left]

end SplitLine

/-! ## An editor of a line in two parts -/

/-- What the editor is told to do. -/
inductive Editor.Command where
  | emit (output : Output)
  | clear

/-- An editor that keeps its line in two parts and remembers what was sent on to it. -/
structure SplitEditor extends SplitLine where
  /-- The strokes that were sent on, in order. -/
  strokes : List Stroke := []

namespace SplitEditor

/-- What a command does. Modifiers are held while their keys are down. -/
def obey (split : SplitEditor) : Editor.Command → SplitEditor
  | .emit output =>
    { toSplitLine := split.toSplitLine.editAll (output.edits (modsDown split.strokes))
      strokes := split.strokes ++ output.stroke?.toList }
  | .clear => { strokes := split.strokes }

/-- Commands in order. -/
def obeyAll (split : SplitEditor) (commands : List Editor.Command) : SplitEditor :=
  commands.foldl obey split

/-- The editor that keeps the line as a whole. -/
def joined (split : SplitEditor) : Editor :=
  split.toSplitLine.joined (modsDown split.strokes)

end SplitEditor

namespace Editor

/-- What a command does. -/
def obey (editor : Editor) : Command → Editor
  | .emit output => editor.emit output
  | .clear => editor.clear

/-- Commands in order. -/
def obeyAll (editor : Editor) (commands : List Command) : Editor :=
  commands.foldl obey editor

/-- A command does the same to the line in two parts and to the whole. -/
theorem obey_joined (split : SplitEditor) (command : Command) :
    split.joined.obey command = (split.obey command).joined := by
  cases command with
  | clear => rfl
  | emit output =>
    have hheld : split.joined.held = modsDown split.strokes := rfl
    show split.joined.emit output = _
    rw [emit_eq_editAll, held_emit hheld, hheld, SplitEditor.joined, SplitLine.joined_editAll]
    rfl

theorem obeyAll_joined (split : SplitEditor) (commands : List Command) :
    split.joined.obeyAll commands = (split.obeyAll commands).joined := by
  induction commands generalizing split with
  | nil => rfl
  | cons command rest ih =>
    show (split.joined.obey command).obeyAll rest = ((split.obey command).obeyAll rest).joined
    rw [obey_joined, ih]

/-- **The editor is one of a line in two parts.** After any outputs and clearings, its line
is the two parts one after the other, its cursor stands where they meet, and it holds the
modifiers whose keys are down. It shows the parts with a bar between them. So the cursor is
in the line, and in a further output it is so at each character that is typed or erased. -/
theorem obeyAll_split (commands : List Command) :
    let editor := ({} : Editor).obeyAll commands
    let split := ({} : SplitEditor).obeyAll commands
    (editor.chars = split.left ++ split.right ∧ editor.cursor = split.left.length ∧
      editor.held = modsDown split.strokes) ∧
    editor.text = String.ofList (split.left ++ split.right) ∧
    editor.display = String.ofList (split.left ++ '|' :: split.right) ∧
    editor.cursor ≤ editor.chars.length ∧
    ∀ output, editor.emit output =
        (editor.editAll (output.edits editor.held)).holding (editor.emit output).held ∧
      ∀ n, (editor.editAll ((output.edits editor.held).take n)).InLine := by
  intro editor split
  have heditor : editor = split.joined := obeyAll_joined {} commands
  rw [heditor]
  refine ⟨⟨rfl, rfl, rfl⟩, rfl, split.display_joined _, split.inLine_joined _,
    fun output => ⟨emit_eq_editAll _ output, fun n => ?_⟩⟩
  rw [SplitEditor.joined, SplitLine.joined_editAll]
  exact SplitLine.inLine_joined _ _

example : (({} : SplitEditor).obeyAll [.emit (.text "()" false), .emit (.tap .left ∅),
    .emit (.text "hi" true)]).toSplitLine = ⟨['(', 'H', 'I'], [')']⟩ := rfl

end Editor

end Keymap
