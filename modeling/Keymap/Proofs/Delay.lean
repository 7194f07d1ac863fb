import Keymap.Event
import Keymap.HoldTimer

/-!
# Later by as much

Events and timers moved along the clock. Of times, only what lies between two of them
is ever asked, so that a delay of both goes unnoticed.

- `KeyEvent.delay`, `HoldTimers.delay`: an event, and all records, later.
- `HoldTimers.press_delay`, `HoldTimers.release_delay`, `HoldTimers.isPastTerm_delay`:
  **delayed timers give what the timers gave**, if they are asked as much later.
-/

namespace Keymap

/-- The event, later. -/
def KeyEvent.delay (d : Nat) (event : KeyEvent) : KeyEvent :=
  { event with time := event.time + d }

/-- The record, later. -/
def PressRecord.delay (d : Nat) (record : PressRecord) : PressRecord :=
  { record with time := record.time + d }

namespace HoldTimers

/-- The timers with all records later. -/
def delay (d : Nat) (timers : HoldTimers) : HoldTimers :=
  { timers with records := timers.records.map fun (key, record) => (key, record.delay d) }

variable (d : Nat) (timers : HoldTimers) (key : Key)

@[simp] theorem delay_zero : timers.delay 0 = timers := by
  have hsame : (fun entry : Key × PressRecord => (entry.1, entry.2.delay 0)) = id := rfl
  unfold delay
  rw [hsame, List.map_id]

theorem get?_delay : (timers.delay d).get? key = (timers.get? key).map (PressRecord.delay d) := by
  unfold get? delay
  induction timers.records with
  | nil => rfl
  | cons entry rest ih =>
    obtain ⟨other, record⟩ := entry
    rw [List.map_cons, List.lookup_cons, List.lookup_cons, ih]
    cases key == other <;> rfl

theorem forget_delay : (timers.delay d).forget key = (timers.forget key).delay d := by
  unfold forget delay
  rw [List.filter_map]
  rfl

theorem press_delay (record : PressRecord) :
    (timers.delay d).press key (record.delay d) = (timers.press key record).delay d := by
  unfold press
  rw [forget_delay]
  rfl

/-- How long ago a press was does not change if both times do. -/
theorem resolve_delay (record : PressRecord) (now : Nat) :
    (timers.delay d).resolve (record.delay d) (now + d) = timers.resolve record now := by
  unfold resolve
  show (if now + d - (record.time + d) < timers.term then TapHold.tap else .hold) = _
  rw [Nat.add_sub_add_right]

theorem isPastTerm_delay (now : Nat) :
    (timers.delay d).isPastTerm key (now + d) = timers.isPastTerm key now := by
  unfold isPastTerm
  rw [get?_delay]
  cases timers.get? key with
  | none => rfl
  | some record =>
    show decide (timers.term ≤ now + d - (record.time + d)) = _
    rw [Nat.add_sub_add_right]

theorem release_delay (now : Nat) :
    (timers.delay d).release key (now + d) =
      ((timers.release key now).1.delay d, (timers.release key now).2.1,
        (timers.release key now).2.2.map (PressRecord.delay d)) := by
  unfold release
  rw [get?_delay, forget_delay]
  cases timers.get? key with
  | none => rfl
  | some record =>
    exact congrArg (fun resolution => ((timers.forget key).delay d, resolution,
      some (record.delay d))) (timers.resolve_delay d record now)

end HoldTimers

end Keymap
