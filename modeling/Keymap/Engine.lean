import Keymap.Chord.Detector
import Keymap.ModTap.Stage
import Keymap.Typist

/-!
# The engine

The engine owns the state of the whole pipeline. An event goes through the chord
detector, then through the mod-tap stage, and what is settled goes to the
typist. Each event is dealt with completely before the next.

- `EngineSettings`: terms, chords and switches.
- `Engine`: the state of the pipeline.
- `Engine.feed`: an event goes in.
- `Engine.tick`: the clock advances without an event.
- `Engine.setLayer`, `Engine.setCapsWord`: what is reported from outside.
- `Engine.onAttach`: what lights are shown when they are attached.
-/

namespace Keymap

/-- The settings of an engine. -/
structure EngineSettings where
  /-- Milliseconds after which a key with two meanings is held. -/
  tappingTerm : Nat := 200
  /-- Milliseconds in which both keys of a chord have to go down. -/
  comboTerm : Nat := 50
  /-- Pressing both shift keys toggles caps word. -/
  bothShiftsToggle : Bool := true
  /-- Sentence case is on at the start. -/
  sentenceCase : Bool := true
  combos : List Chord := []
  deriving DecidableEq

/-- The state of the pipeline. -/
structure Engine where
  chords : ChordDetector
  modTaps : ModTapStage
  typist : Typist
  deriving DecidableEq

namespace Engine

/-- A fresh engine. -/
def new (settings : EngineSettings) : Engine where
  chords := { chords := settings.combos, term := settings.comboTerm }
  modTaps := { timers := { term := settings.tappingTerm } }
  typist :=
    { bothShiftsToggle := settings.bothShiftsToggle
      timers := { term := settings.tappingTerm }
      sentence := { enabled := settings.sentenceCase } }

/-- The scheme that the lights should show. -/
def ledScheme (engine : Engine) : LedScheme :=
  engine.typist.ledScheme

/-- The schemes that newly attached lights are sent: the current one. -/
def onAttach (engine : Engine) : List LedScheme :=
  [engine.ledScheme]

/-- The modifiers that held mod-taps contribute. -/
def modTapMods (engine : Engine) : ModMask :=
  engine.modTaps.mods

/-- What the typist does with what leaves the mod-tap stage. A hold is sent to
the host as its modifier, unless another mod-tap holds that already. -/
def settle (typist : Typist) : StageOutput → Typist × Response
  | .pass event => typist.handle event
  | .tap _ press release =>
    let (typist, down) := typist.handle press
    let (typist, up) := typist.handle release
    (typist, down ++ up)
  | .hold modTap first =>
    (typist, { outputs := if first then [.forward modTap.modifier.key .press ∅] else [] })
  | .lift modTap last =>
    (typist, { outputs := if last then [.forward modTap.modifier.key .release ∅] else [] })

/-- What the typist does with all that leaves the mod-tap stage, in order. -/
def settleAll (typist : Typist) : List StageOutput → Typist × Response
  | [] => (typist, ∅)
  | output :: rest =>
    let (typist, now) := settle typist output
    let (typist, later) := settleAll typist rest
    (typist, now ++ later)

/-- Takes in an event that left the chord detector. -/
def route (engine : Engine) (event : KeyEvent) : Engine × Response :=
  let (modTaps, settled) := engine.modTaps.route event
  let (typist, response) := settleAll engine.typist settled
  ({ engine with modTaps := modTaps, typist := typist }, response)

/-- Takes in the events that left the chord detector, in order. -/
def routeAll (engine : Engine) : List KeyEvent → Engine × Response
  | [] => (engine, ∅)
  | event :: rest =>
    let (engine, now) := engine.route event
    let (engine, later) := engine.routeAll rest
    (engine, now ++ later)

/-- Takes in one event. -/
def feed (engine : Engine) (event : KeyEvent) : Engine × Response :=
  let (chords, events) := engine.chords.feed event
  { engine with chords := chords }.routeAll events

/-- Settles the pending mod-tap if its term has run out. -/
def expire (engine : Engine) (now : Nat) : Engine × Response :=
  let (modTaps, settled) := engine.modTaps.expire now
  let (typist, response) := settleAll engine.typist settled
  ({ engine with modTaps := modTaps, typist := typist }, response)

/-- Advances the clock without an event: a chord press and then a mod-tap whose
term has run out are settled. -/
def tick (engine : Engine) (now : Nat) : Engine × Response :=
  let (chords, event?) := engine.chords.tick now
  let (engine, flushed) := { engine with chords := chords }.routeAll event?.toList
  let (engine, expired) := engine.expire now
  (engine, flushed ++ expired)

/-- The highest active layer changes. -/
def setLayer (engine : Engine) (layer : Layer) : Engine × Response :=
  let (typist, response) := engine.typist.setLayer layer
  ({ engine with typist := typist }, response)

/-- Turns caps word on or off from outside the key stream. -/
def setCapsWord (engine : Engine) (active : Bool) : Engine × Response :=
  let (typist, response) := engine.typist.setCapsWord active
  ({ engine with typist := typist }, response)

end Engine

end Keymap
