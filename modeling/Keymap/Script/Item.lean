import Keymap.Key.Name
import Keymap.Layer
import Keymap.Modifier
import Keymap.Text.DecimalDigit
import Keymap.Text.Split

/-!
# Script items

What a token stands for:

- `~300` lets time pass;
- `layer=nav` reports a layer change;
- anything else is a stroke: modifiers, each followed by `-`, one or more keys
  joined by `+`, and the time for which they are held after `@`, as in `A`,
  `C-S-TAB`, `L+M` and `QU@250`.

`Item.ofToken?` reads a token and says what is wrong with one that it cannot
read (`Fault`).
-/

namespace Keymap.Script

/-- What can be wrong with a token. -/
inductive Fault where
  | unknownKey (key : String)
  | invalidHold (text : String)
  | unknownModifier (modifier : String)
  | unknownLayer (layer : String)
  deriving DecidableEq

/-- Milliseconds for which a stroke holds its keys, unless it says otherwise. -/
def defaultHold : Nat := 20

/-- What a token stands for. -/
inductive Item where
  | pause (ms : Nat)
  | layer (layer : Layer)
  /-- Modifiers go down in order, then the keys; `hold` milliseconds after the
  last key all come up. -/
  | stroke (mods : List Modifier) (keys : List Key) (hold : Nat)
  deriving DecidableEq

/-! ## The parts of a stroke -/

/-- A modifier prefix: one to five ASCII letters and a `-`. Gives the letters
and what follows. -/
def modifierPart? (cs : List Char) : Option (List Char × List Char) :=
  match cs.dropWhile Char.isAlpha with
  | '-' :: rest =>
    let letters := cs.takeWhile Char.isAlpha
    if 1 ≤ letters.length ∧ letters.length ≤ 5 then some (letters, rest) else none
  | _ => none

/-- What follows a modifier prefix is shorter than the whole. -/
theorem length_of_modifierPart? {cs letters rest : List Char}
    (h : modifierPart? cs = some (letters, rest)) : rest.length < cs.length := by
  unfold modifierPart? at h
  split at h
  · next tail hd =>
    have hle : (cs.dropWhile Char.isAlpha).length ≤ cs.length :=
      (List.dropWhile_suffix _).length_le
    simp only [Option.ite_none_right_eq_some, Option.some.injEq, Prod.mk.injEq] at h
    rw [hd, List.length_cons] at hle
    rw [← h.2.2]
    omega
  · simp at h

/-- The modifier prefixes of a stroke and the rest of it. Something has to be
left over: a prefix at the very end belongs to the rest. -/
def splitModifiers (cs : List Char) : List (List Char) × List Char :=
  match _part : modifierPart? cs with
  | some (letters, rest) =>
    if rest.isEmpty then ([], cs)
    else
      let (more, body) := splitModifiers rest
      (letters :: more, body)
  | none => ([], cs)
termination_by cs.length
decreasing_by exact length_of_modifierPart? _part

/-- Cuts a text in front of an `@` after which only decimal digits follow, at
least one. -/
def cutHold : List Char → List Char × Option (List Char)
  | [] => ([], none)
  | c :: rest =>
    if c = '@' && !rest.isEmpty && rest.all Text.isDecimalDigit then ([], some rest)
    else
      let (body, hold) := cutHold rest
      (c :: body, hold)

/-- The keys of a stroke and its hold time. The keys are at least one
character. -/
def splitHold : List Char → List Char × Option (List Char)
  | [] => ([], none)
  | c :: rest =>
    let (body, hold) := cutHold rest
    (c :: body, hold)

/-- The names of the keys of a stroke. A lone `+` separates nothing. -/
def keyNames (body : List Char) : List (List Char) :=
  if body = ['+'] then [body] else Text.splitOn '+' body

/-! ## Reading -/

/-- A number of milliseconds: ASCII digits, below 2⁶⁴. -/
def milliseconds (digits : List Char) : Except Fault Nat :=
  match (Text.decimal? digits).filter (· < UInt64.size) with
  | some ms => .ok ms
  | none => .error (.invalidHold (String.ofList digits))

/-- The modifier that a prefix names. -/
def readModifier (letters : List Char) : Except Fault Modifier :=
  match Modifier.ofAlias? (String.ofList letters) with
  | some m => .ok m
  | none => .error (.unknownModifier (String.ofList letters))

/-- The key with a name. -/
def readKey (name : List Char) : Except Fault Key :=
  match Key.ofName? (String.ofList name) with
  | some key => .ok key
  | none => .error (.unknownKey (String.ofList name))

/-- Reads a stroke. -/
def readStroke (token : List Char) : Except Fault Item := do
  let (prefixes, rest) := splitModifiers token
  let mods ← prefixes.mapM readModifier
  let (body, hold?) := splitHold rest
  if body.contains '@' then
    throw (.invalidHold (String.ofList token))
  let hold ← match hold? with
    | some digits => milliseconds digits
    | none => pure defaultHold
  let keys ← (keyNames body).mapM readKey
  return .stroke mods keys hold

/-- Reads a token. -/
def Item.ofToken? (token : List Char) : Except Fault Item :=
  match token with
  | 'l' :: 'a' :: 'y' :: 'e' :: 'r' :: '=' :: name =>
    match Layer.ofName? (String.ofList name) with
    | some l => .ok (.layer l)
    | none => .error (.unknownLayer (String.ofList name))
  | '~' :: digits =>
    if !digits.isEmpty && digits.all Text.isDecimalDigit then .pause <$> milliseconds digits
    else readStroke token
  | _ => readStroke token

end Keymap.Script
