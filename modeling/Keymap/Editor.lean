import Keymap.Key.Glyph
import Keymap.Output.Basic

/-!
# The line editor

A model of the host: an editor of one line with a cursor, which also tracks the
modifiers that were sent to it, so that a shifted key types its shifted
character. A key with ctrl, alt or gui held is a shortcut and types nothing.

- `Editor`: the characters, the cursor and the held modifiers.
- `Editor.emit`: the effect of an output; `Editor.emitAll` of several.
- `Editor.display`: the text with a bar at the cursor.
-/

namespace Keymap

/-- The state of the editor. -/
structure Editor where
  chars : List Char := []
  /-- How many characters stand before the cursor. -/
  cursor : Nat := 0
  held : ModMask := ∅
  deriving DecidableEq

namespace Editor

/-- The text in the editor. -/
def text (editor : Editor) : String :=
  String.ofList editor.chars

/-- Empties the line; held modifiers stay held. -/
def clear (editor : Editor) : Editor :=
  { editor with chars := [], cursor := 0 }

/-- Types a character at the cursor. -/
def insert (editor : Editor) (c : Char) : Editor :=
  { editor with chars := editor.chars.insertIdx editor.cursor c, cursor := editor.cursor + 1 }

/-- Removes the character before the cursor. -/
def backspace (editor : Editor) : Editor :=
  if editor.cursor = 0 then editor
  else { editor with
    chars := editor.chars.eraseIdx (editor.cursor - 1), cursor := editor.cursor - 1 }

/-- Removes the character after the cursor. -/
def delete (editor : Editor) : Editor :=
  { editor with chars := editor.chars.eraseIdx editor.cursor }

/-- Puts the cursor behind the first `n` characters, or at the end. -/
def moveTo (editor : Editor) (n : Nat) : Editor :=
  { editor with cursor := min n editor.chars.length }

/-- The effect of a key that goes down while `mods` are held. -/
def press (editor : Editor) (key : Key) (mods : ModMask) : Editor :=
  match key with
  | .backspace => editor.backspace
  | .delete => editor.delete
  | .left => editor.moveTo (editor.cursor - 1)
  | .right => editor.moveTo (editor.cursor + 1)
  | .home | .up | .pageUp => editor.moveTo 0
  | .endKey | .down | .pageDown => editor.moveTo editor.chars.length
  | key =>
    if mods.hasNonShift then editor
    else match key.char? mods.anyShift with
      | some c => editor.insert c
      | none => editor

/-- A character as it is typed, an ASCII letter in capitals if `shifted`. -/
def cased (shifted : Bool) (c : Char) : Char :=
  if shifted then c.toUpper else c

/-- The effect of a transition of a key. -/
def transition (editor : Editor) (key : Key) (action : Action) (extra : ModMask) : Editor :=
  match key.modifier?, action with
  | some m, .press => { editor with held := editor.held ∪ .single m }
  | some m, .release => { editor with held := editor.held \ .single m }
  | none, .press => editor.press key (editor.held ∪ extra)
  | none, .release => editor

/-- The effect of an output. -/
def emit (editor : Editor) : Output → Editor
  | .forward key action extra => editor.transition key action extra
  | .tap key mods => editor.press key mods
  | .text chars shifted => (chars.toList.map (cased shifted)).foldl insert editor

/-- The effect of outputs, in order. -/
def emitAll (editor : Editor) (outputs : List Output) : Editor :=
  outputs.foldl emit editor

/-- The text with a bar at the cursor. -/
def display (editor : Editor) : String :=
  String.ofList (editor.chars.take editor.cursor ++ '|' :: editor.chars.drop editor.cursor)

end Editor

end Keymap
