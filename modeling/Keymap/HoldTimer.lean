import Keymap.Modifier

/-!
# Hold timers

A key with two meanings is told apart by how long it is down: shorter than the
tapping term is a tap, the whole term or longer is a hold. Every key has a timer
of its own.

- `TapHold`: the two meanings.
- `PressRecord`: what was true when the key went down.
- `HoldTimers`: the records of the keys that are down.
- `HoldTimers.press`, `HoldTimers.release`, `HoldTimers.take`: a key goes down,
  comes up, or is settled as held while it is still down.
- `HoldTimers.isPastTerm`: whether a key has been down for the whole term.
-/

namespace Keymap

/-- The meaning of a key with two meanings. -/
inductive TapHold where
  | tap
  | hold
  deriving DecidableEq

/-- What was true when a key went down. -/
structure PressRecord where
  time : Nat
  mods : ModMask
  /-- Sentence case asked for a capital. -/
  capitalise : Bool
  deriving DecidableEq

/-- Whether the first letter is to be a capital. -/
def PressRecord.wantsCapital (record : PressRecord) : Bool :=
  record.capitalise || record.mods.anyShift

/-- The records of the keys that are down, at most one for each key. -/
structure HoldTimers where
  /-- The tapping term in milliseconds. -/
  term : Nat := 200
  records : List (Key × PressRecord) := []
  deriving DecidableEq

namespace HoldTimers

/-- The record of a key that is down. -/
def get? (timers : HoldTimers) (key : Key) : Option PressRecord :=
  timers.records.lookup key

/-- Whether a key is down. -/
def isPressed (timers : HoldTimers) (key : Key) : Bool :=
  (timers.get? key).isSome

/-- Forgets a key. -/
def forget (timers : HoldTimers) (key : Key) : HoldTimers :=
  { timers with records := timers.records.filter fun entry => entry.1 != key }

/-- A key goes down; an older record of the same key is replaced. -/
def press (timers : HoldTimers) (key : Key) (record : PressRecord) : HoldTimers :=
  { timers with records := (key, record) :: (timers.forget key).records }

/-- Whether a record has reached the tapping term. -/
def resolve (timers : HoldTimers) (record : PressRecord) (now : Nat) : TapHold :=
  if now - record.time < timers.term then .tap else .hold

/-- Whether a key has been down for the whole tapping term. -/
def isPastTerm (timers : HoldTimers) (key : Key) (now : Nat) : Bool :=
  match timers.get? key with
  | some record => timers.term ≤ now - record.time
  | none => false

/-- Settles a key while it is down: its record is taken away. -/
def take (timers : HoldTimers) (key : Key) : HoldTimers × Option PressRecord :=
  (timers.forget key, timers.get? key)

/-- A key comes up. One that was not down counts as held. -/
def release (timers : HoldTimers) (key : Key) (now : Nat) :
    HoldTimers × TapHold × Option PressRecord :=
  let record? := timers.get? key
  (timers.forget key, (record?.map (timers.resolve · now)).getD .hold, record?)

/-! ## What a key's record is after each operation -/

@[simp] theorem get?_forget_self (timers : HoldTimers) (key : Key) :
    (timers.forget key).get? key = none := by
  simp only [get?, forget, List.lookup_eq_none_iff]
  intro entry h
  have := (List.mem_filter.mp h).2
  simp only [bne_iff_ne, ne_eq] at this
  simpa using fun h => this h.symm

theorem get?_forget_of_ne (timers : HoldTimers) {key other : Key} (h : other ≠ key) :
    (timers.forget key).get? other = timers.get? other := by
  simp only [get?, forget]
  induction timers.records with
  | nil => rfl
  | cons entry rest ih =>
    obtain ⟨held, record⟩ := entry
    rw [List.filter_cons]
    by_cases hk : held = key
    · have hne : (other == held) = false := by simpa [hk] using h
      simp only [hk, bne_self_eq_false, Bool.false_eq_true, if_false, ih]
      rw [← hk, List.lookup_cons, hne]
    · simp only [bne_iff_ne, ne_eq, hk, not_false_iff, if_true, List.lookup_cons, ih]

@[simp] theorem get?_press_self (timers : HoldTimers) (key : Key) (record : PressRecord) :
    (timers.press key record).get? key = some record := by
  simp [get?, press]

theorem get?_press_of_ne (timers : HoldTimers) {key other : Key} (record : PressRecord)
    (h : other ≠ key) : (timers.press key record).get? other = timers.get? other := by
  have hne : (other == key) = false := by simpa using h
  have := timers.get?_forget_of_ne h
  simp only [get?] at this
  simp [get?, press, List.lookup_cons, hne, this]

end HoldTimers

end Keymap
