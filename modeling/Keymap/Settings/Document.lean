import Keymap.Settings.Basic
import Keymap.Text.Blank

/-!
# Settings documents

What a settings file says. Anything may be left out, a whole table or a part of it,
and then has its default; keys are given by name, with any blanks around it.

- `Document`: what a file says; `Timing`, `Switch`, `ChordEntry`: its tables.
- `Document.toSettings`: the settings that a document stands for, or its first
  problem: the chords are read in order, and then the settings are checked.
-/

namespace Keymap.Settings

/-- The times in a document. -/
structure Timing where
  tappingTerm : Option Nat := none
  comboTerm : Option Nat := none
  sendDelay : Option Nat := none
  deriving DecidableEq

/-- A feature in a document that can be turned on and off. -/
structure Switch where
  on : Option Bool := none
  deriving DecidableEq

/-- A chord in a document. -/
structure ChordEntry where
  keys : List String
  output : String
  deriving DecidableEq

/-- What a settings file says. -/
structure Document where
  timing : Option Timing := none
  /-- Both shift keys toggle caps word. -/
  capsWord : Option Switch := none
  sentenceCase : Option Switch := none
  chords : List ChordEntry := []
  deriving DecidableEq

/-- The key with a name, with any blanks around it. -/
def readKey (name : String) : Except Problem Key :=
  match Key.ofName? (Text.trim name) with
  | some key => .ok key
  | none => .error (.unknownKey (Text.trim name))

/-- The chord that an entry stands for. -/
def ChordEntry.toChord (entry : ChordEntry) : Except Problem Chord :=
  match entry.keys with
  | [first, second] =>
    return ⟨← readKey first, ← readKey second, ← readKey entry.output⟩
  | keys => .error (.chord (.keyCount keys.length))

namespace Document

/-- The settings that a document stands for, unchecked. -/
def unchecked (document : Document) : Except Problem Settings := do
  let defaults : Settings := {}
  let chords ← document.chords.mapM ChordEntry.toChord
  return {
    tappingTerm := (document.timing.bind Timing.tappingTerm).getD defaults.tappingTerm
    comboTerm := (document.timing.bind Timing.comboTerm).getD defaults.comboTerm
    sendDelay := (document.timing.bind Timing.sendDelay).getD defaults.sendDelay
    bothShiftsToggle := (document.capsWord.bind Switch.on).getD defaults.bothShiftsToggle
    sentenceCase := (document.sentenceCase.bind Switch.on).getD defaults.sentenceCase
    combos := chords }

/-- The settings that a document stands for, or its first problem. -/
def toSettings (document : Document) : Except Problem Settings := do
  let settings ← document.unchecked
  settings.check
  return settings

end Document

end Keymap.Settings
