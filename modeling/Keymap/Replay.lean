import Keymap.Engine
import Keymap.Script.Schedule

/-!
# Replays

A script is played through an engine: the clock is advanced to the time of each
event before the event goes in, and once more after the last one, by the term
for chords, so that no press is still waiting for a partner.

- `Engine.play`: what a step does; `Engine.playAll`: what steps do, in order.
- `Script.lastTime`: when the last event of a script happens.
- `Replay`: what a whole script leads to.
- `Engine.replay`: plays a whole script.
-/

namespace Keymap

/-- When the last event of a script happens; zero if it has none. -/
def Script.lastTime (steps : List Script.Step) : Nat :=
  ((Script.events steps).getLast?.map KeyEvent.time).getD 0

/-- What a script leads to. -/
structure Replay where
  /-- The engine afterwards. -/
  engine : Engine
  /-- What each step led to. -/
  responses : List Response
  /-- What the clock led to after the last step. -/
  closing : Response

/-- All that a script led to, as one response. -/
def Replay.response (replay : Replay) : Response :=
  replay.responses.foldr (· ++ ·) replay.closing

namespace Engine

/-- What a step does. -/
def play (engine : Engine) : Script.Step → Engine × Response
  | .event event =>
    let (engine, ticked) := engine.tick event.time
    let (engine, fed) := engine.feed event
    (engine, ticked ++ fed)
  | .layer layer => engine.setLayer layer

/-- What steps do, in order, with one response for each. -/
def playAll (engine : Engine) : List Script.Step → Engine × List Response
  | [] => (engine, [])
  | step :: rest =>
    let (engine, response) := engine.play step
    let (engine, responses) := engine.playAll rest
    (engine, response :: responses)

/-- Plays a whole script. -/
def replay (engine : Engine) (steps : List Script.Step) : Replay :=
  let (engine, responses) := engine.playAll steps
  let (engine, closing) := engine.tick (Script.lastTime steps + engine.chords.term)
  { engine := engine, responses := responses, closing := closing }

end Engine

end Keymap
