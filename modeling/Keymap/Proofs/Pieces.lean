import Mathlib.Data.List.Forall2
import Keymap.Proofs.Editing

/-!
# Texts in pieces

A slow typist pauses between the characters of a text, and so sends it in pieces. The host
cannot tell: whatever else it is sent in between, and wherever its cursor stands, a text in
pieces is typed as a whole one.

- `Editor.emitAll_pieces`: a text that is sent in pieces of any size is typed whole.
- `Output.Spelled`: the pieces of an output, one for each character of a text.
- `Output.spelled_spell`: what is sent for an output with pauses is its pieces.
- `Editor.emitAll_throttle`: **pauses do not change what is typed**, and what is sent is
  the pieces of each output, in order.
-/

namespace Keymap

/-! ## The editor -/

namespace Editor

variable {editor : Editor}

theorem emit_text_append (editor : Editor) (front back : String) (shifted : Bool) :
    editor.emit (.text (front ++ back) shifted) =
      (editor.emit (.text front shifted)).emit (.text back shifted) := by
  show ((front ++ back).toList.map (cased shifted)).foldl insert editor = _
  rw [String.toList_append, List.map_append, List.foldl_append]
  rfl

/-- **A text that is sent in pieces is typed whole.** -/
theorem emitAll_pieces (editor : Editor) (pieces : List String) (shifted : Bool) :
    editor.emitAll (pieces.map fun piece => .text piece shifted) =
      editor.emit (.text (String.join pieces) shifted) := by
  induction pieces generalizing editor with
  | nil => rfl
  | cons piece rest ih =>
    rw [List.map_cons, emitAll_cons, ih, String.join_cons, emit_text_append]

end Editor

/-! ## The pieces of an output -/

namespace Output

/-- The pieces of an output: those of a text have one character each and make up the text,
and everything else stays in one piece. -/
inductive Spelled : Output → List Output → Prop where
  | forward (key : Key) (action : Action) (extra : ModMask) :
      Spelled (.forward key action extra) [.forward key action extra]
  | tap (key : Key) (mods : ModMask) : Spelled (.tap key mods) [.tap key mods]
  | text (pieces : List String) (shifted : Bool) (single : ∀ piece ∈ pieces, piece.length = 1) :
      Spelled (.text (String.join pieces) shifted) (pieces.map fun piece => .text piece shifted)

theorem join_singletons (chars : String) :
    String.join (chars.toList.map String.singleton) = chars := by
  rw [← String.toList_inj, String.toList_join, List.flatMap_map]
  simp only [String.toList_singleton, List.flatMap_singleton']

/-- What is sent for an output with pauses is its pieces. -/
theorem spelled_spell (output : Output) : Spelled output output.spell := by
  cases output with
  | forward key action extra => exact .forward key action extra
  | tap key mods => exact .tap key mods
  | text chars shifted =>
    have hsingle : ∀ piece ∈ chars.toList.map String.singleton, piece.length = 1 := by
      intro piece hmem
      obtain ⟨c, -, rfl⟩ := List.mem_map.mp hmem
      exact String.length_singleton
    have hspelled := Spelled.text (chars.toList.map String.singleton) shifted hsingle
    rw [join_singletons, List.map_map] at hspelled
    exact hspelled

/-- The pieces of an output are typed as the output. -/
theorem Spelled.emitAll {output : Output} {parts : List Output} (h : Spelled output parts)
    (editor : Editor) : editor.emitAll parts = editor.emit output := by
  cases h with
  | forward key action extra => rfl
  | tap key mods => rfl
  | text pieces shifted single => exact editor.emitAll_pieces pieces shifted

/-- The pieces of outputs, one after another, are typed as the outputs. -/
theorem emitAll_of_spelled {outputs : List Output} {parts : List (List Output)}
    (h : List.Forall₂ Spelled outputs parts) (editor : Editor) :
    editor.emitAll parts.flatten = editor.emitAll outputs := by
  induction h generalizing editor with
  | nil => rfl
  | cons hfirst _ ih =>
    rw [List.flatten_cons, Editor.emitAll_append, hfirst.emitAll, ih, Editor.emitAll_cons]

end Output

/-- **Pauses do not change what is typed.** Whatever the pause, whatever an editor holds and
wherever its cursor stands, it is the same after outputs that are sent with pauses as after
the outputs themselves. Without a pause just the outputs are sent. With one, each output is
sent in its pieces: a text character by character, shifted as before, and everything else
unchanged and in its place. -/
theorem Editor.emitAll_throttle (editor : Editor) (delay : Nat) (outputs : List Output) :
    editor.emitAll (Output.throttle delay outputs) = editor.emitAll outputs ∧
    if delay = 0 then Output.throttle delay outputs = outputs
    else ∃ parts : List (List Output), Output.throttle delay outputs = parts.flatten ∧
      List.Forall₂ Output.Spelled outputs parts := by
  by_cases hpause : delay = 0
  · have hwhole : Output.throttle delay outputs = outputs := by
      unfold Output.throttle
      rw [if_pos hpause]
    rw [if_pos hpause, hwhole]
    exact ⟨rfl, rfl⟩
  · have hparts : Output.throttle delay outputs = (outputs.map Output.spell).flatten := by
      unfold Output.throttle
      rw [if_neg hpause, List.flatMap_def]
    have hspelled : List.Forall₂ Output.Spelled outputs (outputs.map Output.spell) :=
      List.forall₂_map_right_iff.mpr
        (List.forall₂_same.mpr fun output _ => Output.spelled_spell output)
    rw [if_neg hpause, hparts]
    exact ⟨Output.emitAll_of_spelled hspelled editor, _, rfl, hspelled⟩

example : Output.throttle 5 [.text "hé" true, .tap .left ∅, .text "" false] =
    [.text "h" true, .text "é" true, .tap .left ∅] := by decide

end Keymap
