import Keymap.Event
import Keymap.Script.Item
import Keymap.Script.Token

/-!
# Script schedules

A script is turned into timed events, with the clock at zero to begin with. The
keys of a stroke go down five milliseconds apart and come up together; the next
stroke starts twenty milliseconds later.

- `Step`: an event or a layer change.
- `Item.steps`, `Item.duration`: what an item does from a given time on, and how
  far it moves the clock.
- `schedule`: the steps of items in order.
- `parse`: the steps of a text, or its first error.
- `events`: the events among the steps.
-/

namespace Keymap.Script

/-- One step of a script. -/
inductive Step where
  | event (event : KeyEvent)
  | layer (layer : Layer)
  deriving DecidableEq

/-- Milliseconds between the end of a stroke and the next item. -/
def gap : Nat := 20

/-- Milliseconds between the presses of a chord. -/
def stagger : Nat := 5

/-- Presses modifiers one after the other at one time, each with those before it
held. -/
def pressModifiers (time : Nat) (held : ModMask) : List Modifier → List KeyEvent
  | [] => []
  | m :: rest => .press m.key held time :: pressModifiers time (held ∪ .single m) rest

/-- Lets modifiers go one after the other at one time, each with the others that
are still down held. -/
def releaseModifiers (time : Nat) (held : ModMask) : List Modifier → List KeyEvent
  | [] => []
  | m :: rest =>
    let held := held \ .single m
    .release m.key held time :: releaseModifiers time held rest

/-- The set of some modifiers. -/
def maskOf (mods : List Modifier) : ModMask :=
  mods.foldl (fun mask m => mask ∪ .single m) ∅

/-- Presses keys one after the other, `stagger` milliseconds apart. -/
def pressKeys (time : Nat) (mods : ModMask) : List Key → List KeyEvent
  | [] => []
  | key :: rest => .press key mods time :: pressKeys (time + stagger) mods rest

/-- How long a stroke lasts. -/
def strokeLength (keys : List Key) (hold : Nat) : Nat :=
  stagger * (keys.length - 1) + hold

/-- The events of a stroke that starts at a given time. -/
def strokeEvents (start : Nat) (mods : List Modifier) (keys : List Key) (hold : Nat) :
    List KeyEvent :=
  let mask := maskOf mods
  let stop := start + strokeLength keys hold
  pressModifiers start ∅ mods ++ pressKeys start mask keys ++
    keys.map (KeyEvent.release · mask stop) ++ releaseModifiers stop mask mods.reverse

/-- What an item does, starting at a given time. -/
def Item.steps (start : Nat) : Item → List Step
  | pause _ => []
  | layer l => [.layer l]
  | stroke mods keys hold => (strokeEvents start mods keys hold).map .event

/-- How far an item moves the clock. -/
def Item.duration : Item → Nat
  | pause ms => ms
  | layer _ => 0
  | stroke _ keys hold => strokeLength keys hold + gap

/-- The steps of items, starting at a given time. -/
def schedule (start : Nat) : List Item → List Step
  | [] => []
  | item :: rest => item.steps start ++ schedule (start + item.duration) rest

/-- What is wrong with a script, and in which token, counted from one. -/
structure Error where
  token : Nat
  fault : Fault
  deriving DecidableEq

/-- The wording of an error. -/
def Error.message (error : Error) : String :=
  match error.fault with
  | .unknownKey key => s!"unknown key '{key}' in token {error.token}"
  | .invalidHold text => s!"invalid hold time in token {error.token}: '{text}'"
  | .unknownModifier m => s!"unknown modifier '{m}' in token {error.token}"
  | .unknownLayer layer => s!"unknown layer '{layer}' in token {error.token}"

/-- Reads tokens, the first of which has number `n`. -/
def readItems (n : Nat) : List (List Char) → Except Error (List Item)
  | [] => .ok []
  | token :: rest => do
    let item ← (Item.ofToken? token).mapError (Error.mk n)
    return item :: (← readItems (n + 1) rest)

/-- The steps of a script. -/
def parse (text : String) : Except Error (List Step) :=
  (readItems 1 (tokens text)).map (schedule 0)

/-- The events of a script, without its layer changes. -/
def events (steps : List Step) : List KeyEvent :=
  steps.filterMap fun
    | .event event => some event
    | .layer _ => none

theorem events_append (steps more : List Step) :
    events (steps ++ more) = events steps ++ events more :=
  List.filterMap_append

theorem events_map_event (es : List KeyEvent) : events (es.map .event) = es := by
  rw [events, List.filterMap_map]
  exact List.filterMap_some

end Keymap.Script
