import Keymap.Settings.Document
import Keymap.Toml.Document

/-!
# Settings files

A settings file is a TOML document:

```toml
[general]
tapping_term_ms = 180
[caps_word]
both_shifts_toggle = false
[sentence_case]
enabled = true
[[combo]]
keys = ["L", "M"]
output = "TAB"
```

- `fields?`: the values of the fields of a record.
- `Document.ofToml?`: the document that a TOML value stands for.
- `File.Fault`: why a file gives no settings.
- `parse`: the settings in a text.
-/

namespace Keymap.Settings

open Toml (Value)

/-! ## Decoding -/

/-- The values of the fields with given names. A table gives any of them and
nothing else; an array gives all of them in order, and more if it likes. -/
def fields? (names : List String) (value : Value) : Option (List (Option Value)) :=
  match value with
  | .table _ entries =>
    if entries.all fun entry => names.contains entry.1 then
      some (names.map fun name => entries.lookup name)
    else none
  | value => do
    let items ← value.items?
    guard (names.length ≤ items.length)
    return (items.take names.length).map some

/-- Reads a value that may be missing. -/
def optional? {α : Type} (read : Value → Option α) : Option Value → Option (Option α)
  | none => some none
  | some value => some <$> read value

/-- A number that is not negative. -/
def nat? : Value → Option Nat
  | .integer n => if n < 0 then none else some n.toNat
  | _ => none

/-- A truth value. -/
def bool? : Value → Option Bool
  | .boolean b => some b
  | _ => none

/-- A text. -/
def text? : Value → Option String
  | .text chars => some chars
  | _ => none

/-- The times in a document. -/
def Timing.ofToml? (value : Value) : Option Timing := do
  match ← fields? ([Duration.tappingTerm, .comboTerm, .sendDelay].map Duration.name) value with
  | [tapping, combo, delay] =>
    return ⟨← optional? nat? tapping, ← optional? nat? combo, ← optional? nat? delay⟩
  | _ => none

/-- A feature in a document, whose one field has a name. -/
def Switch.ofToml? (name : String) (value : Value) : Option Switch := do
  match ← fields? [name] value with
  | [on] => return ⟨← optional? bool? on⟩
  | _ => none

/-- A chord in a document. Both parts of it are needed. -/
def ChordEntry.ofToml? (value : Value) : Option ChordEntry := do
  match ← fields? ["keys", "output"] value with
  | [some keys, some output] => return ⟨← (← keys.items?).mapM text?, ← text? output⟩
  | _ => none

/-- The document that a TOML value stands for. -/
def Document.ofToml? (value : Value) : Option Document := do
  match ← fields? ["general", "caps_word", "sentence_case", "combo"] value with
  | [general, capsWord, sentenceCase, combo] =>
    let timing ← optional? Timing.ofToml? general
    let capsWord ← optional? (Switch.ofToml? "both_shifts_toggle") capsWord
    let sentenceCase ← optional? (Switch.ofToml? "enabled") sentenceCase
    let chords ← optional? (fun value => do (← value.items?).mapM ChordEntry.ofToml?) combo
    return ⟨timing, capsWord, sentenceCase, chords.getD []⟩
  | _ => none

/-! ## Files -/

/-- Why a file gives no settings. -/
inductive File.Fault where
  /-- The text is no TOML document, or not one that says settings. -/
  | document
  | problem (problem : Problem)
  deriving DecidableEq

/-- The wording of a fault. -/
def File.Fault.message : File.Fault → String
  | document => "TOML parse error: not a settings document"
  | problem p => p.message

/-- The settings in a text. -/
def parse (text : String) : Except File.Fault Settings :=
  match (Toml.parse text).bind Document.ofToml? with
  | some document => document.toSettings.mapError .problem
  | none => .error .document

end Keymap.Settings
