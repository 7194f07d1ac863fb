import Keymap.CapsWord
import Keymap.Expansion.Fragment
import Keymap.Layer
import Keymap.Memory
import Keymap.Role
import Keymap.SentenceCase
import Keymap.Text.Blank
import Keymap.VowelSwitch
import Keymap.WordPosition

/-!
# The typist

The typist turns settled key events into outputs. A press is first seen by the
mode switches, the caps word gate, the sentence tracker and the word tracker,
and then goes to the handler of its key.

- `Typist`: everything that the handlers remember.
- `Response`: outputs for the host and colour schemes for the lights.
- `Cue`: what the trackers say about a press.
- `Typist.typeKey`: the handlers.
- `Typist.press`, `Typist.release`, `Typist.handle`: an event goes in.
- `Typist.setLayer`, `Typist.setCapsWord`: what is reported from outside.
-/

namespace Keymap

/-- What an event leads to. -/
structure Response where
  outputs : List Output := []
  /-- Colour schemes to show, in order. -/
  schemes : List LedScheme := []
  deriving DecidableEq

namespace Response

instance : Append Response where
  append one other := ⟨one.outputs ++ other.outputs, one.schemes ++ other.schemes⟩

instance : EmptyCollection Response where
  emptyCollection := {}

instance : Inhabited Response where
  default := ∅

@[simp] theorem outputs_append (one other : Response) :
    (one ++ other).outputs = one.outputs ++ other.outputs := rfl

@[simp] theorem schemes_append (one other : Response) :
    (one ++ other).schemes = one.schemes ++ other.schemes := rfl

@[simp] theorem outputs_empty : (∅ : Response).outputs = [] := rfl

@[simp] theorem schemes_empty : (∅ : Response).schemes = [] := rfl

end Response

/-- What the handlers remember. -/
structure Typist where
  /-- Pressing both shift keys toggles caps word. -/
  bothShiftsToggle : Bool := true
  timers : HoldTimers := {}
  memory : Memory := {}
  sentence : SentenceCase := {}
  capsWord : CapsWord := {}
  position : WordPosition := {}
  layer : Layer := .base
  deriving DecidableEq

/-- What the trackers say about a press. -/
structure Cue where
  /-- Caps word asks for a shift on a key that goes to the host. -/
  weakShift : Bool
  /-- How typed text is cased. -/
  case : FragmentCase
  deriving DecidableEq

namespace Typist

/-- The scheme that the lights should show. -/
def ledScheme (typist : Typist) : LedScheme :=
  if typist.capsWord.active then .capsWord else typist.layer.scheme

/-! ## Trackers -/

/-- Turns caps word on or off, which the lights show. -/
def toggleCapsWord (typist : Typist) : Typist × List LedScheme :=
  let capsWord := typist.capsWord.toggle
  let scheme := if capsWord.active then .capsWord else typist.layer.scheme
  ({ typist with capsWord := capsWord }, [scheme])

/-- Whether a press completes the pair of shift keys. -/
def bothShiftsDown (event : KeyEvent) : Bool :=
  match event.key with
  | .leftShift => event.mods.rightShift
  | .rightShift => event.mods.leftShift
  | _ => false

/-- Toggles caps word when both shift keys are down. -/
def watchShifts (typist : Typist) (event : KeyEvent) : Typist × List LedScheme :=
  if typist.bothShiftsToggle && bothShiftsDown event then typist.toggleCapsWord
  else (typist, [])

/-- Takes a press through the caps word gate; the lights show when it ends.
Gives whether the key wants a shift. -/
def gate (typist : Typist) (event : KeyEvent) : Typist × Bool × List LedScheme :=
  let (capsWord, verdict) := typist.capsWord.onPress event
  let next := { typist with capsWord := capsWord }
  match verdict with
  | .goesOn shift => (next, shift, [])
  | .ended => (next, false, [next.layer.scheme])
  | .inactive => (next, false, [])

/-- Shows a press to the trackers. -/
def track (typist : Typist) (event : KeyEvent) : Typist × Cue × List LedScheme :=
  let (typist, shiftSchemes) := typist.watchShifts event
  let (typist, weakShift, gateSchemes) := typist.gate event
  let (sentence, capitalise) := typist.sentence.onEvent event
  ({ typist with sentence := sentence },
    { weakShift := weakShift
      case := { shifted := typist.capsWord.active, capitalise := capitalise } },
    shiftSchemes ++ gateSchemes)

/-! ## Handlers -/

/-- Remembers a key that was typed with no modifiers. -/
def remember (typist : Typist) (key : Key) : Typist :=
  { typist with memory := ⟨key, ∅⟩ }

/-- A trigger that typed nothing hands its capital to the next letter. -/
def handBack (typist : Typist) (case : FragmentCase) : Typist :=
  if case.capitalise then { typist with sentence := typist.sentence.prime } else typist

/-- Types a fragment; the word tracker follows it. -/
def typeText (typist : Typist) (text : String) (backspaces : Nat) (case : FragmentCase) :
    Typist × List Output :=
  ({ typist with position := typist.position.observeText text },
    typeFragment text backspaces case)

/-- Whether a typed fragment ends a sentence. -/
def endsSentence (text : String) : Bool :=
  match (text.toList.reverse.dropWhile Text.isBlank).head? with
  | some c => c == '.' || c == '!' || c == '?'
  | none => false

/-- A magic key types the expansion of the remembered key. A sentence that the
expansion ends makes a capital due. -/
def magic (typist : Typist) (side : MagicSide) (case : FragmentCase) : Typist × List Output :=
  match side.expand typist.memory.key typist.memory.mods with
  | none => (typist.handBack case, [])
  | some expansion =>
    let (typist, outputs) := typist.typeText expansion.text expansion.backspaces case
    let typist := typist.remember expansion.repeatKey
    (if endsSentence expansion.text then
        { typist with sentence := typist.sentence.prime }
      else typist, outputs)

/-- An alternate-repeat key types what its table has for the remembered key, and
leaves memory as it is. -/
def alternate (typist : Typist) (table : KeyTable String) (case : FragmentCase) :
    Typist × List Output :=
  match table.find? typist.memory.key with
  | some text => typist.typeText text 0 case
  | none => (typist.handBack case, [])

/-- A word key types its text. -/
def word (typist : Typist) (entry : WordMacro) (case : FragmentCase) : Typist × List Output :=
  let (typist, outputs) := typist.typeText entry.text 0 case
  (typist.remember entry.repeatKey, outputs)

/-- The switch between `h` and `v`. -/
def switchVowel (typist : Typist) (reversed : Bool) (event : KeyEvent) (case : FragmentCase) :
    Typist × List Output :=
  let key := VowelSwitch.choose reversed typist.memory.key event.mods
  let mods := VowelSwitch.tapMods event.mods (case.shifted || case.capitalise)
  (typist.remember key, [.tap key mods])

/-- A key that goes to the host, shifted if caps word or sentence case ask for
it. A capital of sentence case is remembered as shifted. -/
def forward (typist : Typist) (event : KeyEvent) (cue : Cue) : Typist × List Output :=
  let extra := if cue.weakShift || cue.case.capitalise then .single .leftShift else ∅
  let mods := if cue.case.capitalise then event.mods ∪ .single .leftShift else event.mods
  ({ typist with memory := (typist.memory.observe event.key mods).1 },
    [.forward event.key .press extra])

/-- Sends a press to the handler of its key. The mode switches have been dealt
with before. -/
def typeKey (typist : Typist) (event : KeyEvent) (cue : Cue) : Typist × List Output :=
  let seen := { typist with position := typist.position.observe event }
  match event.key.role with
  | .quotePair =>
    ({ typist.remember .apostrophe with position := {} }, typist.position.quote)
  | .magic side => typist.magic side cue.case
  | .alternate table => typist.alternate table cue.case
  | .word entry => typist.word entry cue.case
  | .dual _ =>
    let record : PressRecord := ⟨event.time, event.mods, cue.case.capitalise⟩
    ({ seen with timers := typist.timers.press event.key record }, [])
  | .vowelSwitch reversed => seen.switchVowel reversed event cue.case
  | .plain => seen.forward event cue
  | .inert | .capsWordToggle | .sentenceCaseOn | .sentenceCaseToggle => (seen, [])

/-- A dual key comes up: a tap types both letters, a hold only the first. The
first letter follows its press, the second only caps word. -/
def resolveDual (typist : Typist) (dual : DualKey) (event : KeyEvent) : Typist × List Output :=
  let (timers, resolution, record?) := typist.timers.release event.key event.time
  let shifted := typist.capsWord.active
  let capital := shifted || (record?.map PressRecord.wantsCapital).getD false
  let mods := (record?.map PressRecord.mods).getD event.mods \ .shifts
  let withShift (upper : Bool) : ModMask := if upper then mods ∪ .single .leftShift else mods
  let typist := { typist with timers := timers }
  match resolution with
  | .tap =>
    (typist.remember dual.second,
      [.tap dual.first (withShift capital), .tap dual.second (withShift shifted)])
  | .hold => (typist.remember dual.first, [.tap dual.first (withShift capital)])

/-! ## Events -/

/-- A key goes down. -/
def press (typist : Typist) (event : KeyEvent) : Typist × Response :=
  match event.key.role with
  | .capsWordToggle =>
    let (typist, schemes) := typist.toggleCapsWord
    (typist, { schemes := schemes })
  | .sentenceCaseOn => ({ typist with sentence := typist.sentence.enable }, ∅)
  | .sentenceCaseToggle => ({ typist with sentence := typist.sentence.toggle }, ∅)
  | _ =>
    let (typist, cue, schemes) := typist.track event
    let (typist, outputs) := typist.typeKey event cue
    (typist, { outputs := outputs, schemes := schemes })

/-- A key comes up: a dual key is resolved now, and a key that went to the host
is let go there. -/
def release (typist : Typist) (event : KeyEvent) : Typist × Response :=
  match event.key.role with
  | .dual letters =>
    let (typist, outputs) := typist.resolveDual letters event
    (typist, { outputs := outputs })
  | .plain => (typist, { outputs := [.forward event.key .release ∅] })
  | _ => (typist, ∅)

/-- Takes in one settled event. -/
def handle (typist : Typist) (event : KeyEvent) : Typist × Response :=
  match event.action with
  | .press => typist.press event
  | .release => typist.release event

/-- The highest active layer changes. While caps word is on the lights do not
show it. -/
def setLayer (typist : Typist) (layer : Layer) : Typist × Response :=
  if layer = typist.layer then (typist, ∅)
  else
    let next := { typist with layer := layer }
    (next, { schemes := if typist.capsWord.active then [] else [layer.scheme] })

/-- A report of a layer changes the layer alone. -/
theorem setLayer_fst (typist : Typist) (layer : Layer) :
    (typist.setLayer layer).1 = { typist with layer := layer } := by
  unfold setLayer
  by_cases hsame : layer = typist.layer
  · rw [if_pos hsame, hsame]
  · rw [if_neg hsame]

/-- Nothing is typed for a layer. -/
theorem setLayer_outputs (typist : Typist) (layer : Layer) :
    (typist.setLayer layer).2.outputs = [] := by
  unfold setLayer
  split <;> rfl

/-- Turns caps word on or off from outside the key stream. -/
def setCapsWord (typist : Typist) (active : Bool) : Typist × Response :=
  if active then
    let (capsWord, changed) := typist.capsWord.activate
    ({ typist with capsWord := capsWord }, { schemes := if changed then [.capsWord] else [] })
  else
    let (capsWord, changed) := typist.capsWord.deactivate
    ({ typist with capsWord := capsWord },
      { schemes := if changed then [typist.layer.scheme] else [] })

/-- From outside nothing but caps word is changed. -/
theorem setCapsWord_fst (typist : Typist) (active : Bool) :
    (typist.setCapsWord active).1 = { typist with capsWord := ⟨active⟩ } := by
  cases active <;> rfl

/-- Nothing is typed for caps word. -/
theorem setCapsWord_outputs (typist : Typist) (active : Bool) :
    (typist.setCapsWord active).2.outputs = [] := by
  cases active <;> rfl

end Typist

end Keymap
