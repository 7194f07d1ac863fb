import Keymap.Proofs.Strokes

/-!
# Events that tell the modifiers

An event carries the modifiers that are held when it happens, its own not counted.
Whether a stream of events does so can be seen from the whole of it, or event by event
with the modifiers that are down so far.

- `Stroke.modsDown`: the modifiers whose keys are down after some strokes.
- `ToldMods`: every event tells the modifiers whose keys are down before it.
- `ModMask.after`, `TellsFrom`: the same event by event (`toldMods_iff`).
-/

namespace Keymap

open Stroke

/-- The modifiers whose keys are down after some strokes. -/
def Stroke.modsDown (strokes : List Stroke) : ModMask :=
  .ofTest fun m => isDown m.key false strokes

/-- The set of the modifier that a key holds, if it holds one. -/
def Key.ownMask (key : Key) : ModMask :=
  (key.modifier?.map ModMask.single).getD ∅

/-- Every event tells the modifiers whose keys are down before it, without its own. -/
def ToldMods (events : List KeyEvent) : Prop :=
  ∀ (i : Nat) (_ : i < events.length), events[i].mods =
    modsDown ((events.take i).map KeyEvent.stroke) \ events[i].key.ownMask

instance : DecidablePred ToldMods :=
  fun events => inferInstanceAs (Decidable (∀ (i : Nat) (_ : i < events.length), _))

theorem ToldMods.of_append {front back : List KeyEvent} (h : ToldMods (front ++ back)) :
    ToldMods front := by
  intro i hi
  have hlonger : i < (front ++ back).length := by
    rw [List.length_append]
    omega
  have htold := h i hlonger
  rwa [List.getElem_append_left hi, List.take_append_of_le_length (Nat.le_of_lt hi)] at htold

theorem ToldMods.mods_eq {front back : List KeyEvent} {event : KeyEvent}
    (h : ToldMods (front ++ event :: back)) :
    event.mods = modsDown (front.map KeyEvent.stroke) \ event.key.ownMask := by
  have htold := h front.length (by simp)
  simpa [List.getElem_append_right (Nat.le_refl _), List.take_left] using htold

/-! ## Own modifiers -/

/-- A key holds the modifier whose key it is. -/
@[simp] theorem Key.holds_ownMask (key : Key) (m : Modifier) :
    key.ownMask.holds m = decide (key = m.key) := by
  unfold ownMask
  cases hmod : key.modifier? with
  | none =>
    have hne : key ≠ m.key := by
      rintro rfl
      rw [Key.modifier?_key] at hmod
      cases hmod
    simp [hne]
  | some m' =>
    obtain rfl := Key.eq_key_of_modifier? hmod
    by_cases hm : m = m'
    · simp [hm]
    · have hkey : m'.key ≠ m.key := fun heq => hm (Modifier.key_inj.mp heq).symm
      simp [hm, hkey]

/-! ## Event by event -/

/-- The modifiers that are down after a stroke. -/
def ModMask.after (held : ModMask) (stroke : Stroke) : ModMask :=
  match stroke.action with
  | .press => held ∪ stroke.key.ownMask
  | .release => held \ stroke.key.ownMask

theorem Stroke.modsDown_concat (strokes : List Stroke) (stroke : Stroke) :
    modsDown (strokes ++ [stroke]) = (modsDown strokes).after stroke := by
  obtain ⟨key, action⟩ := stroke
  refine ModMask.ext_holds fun m => ?_
  unfold modsDown
  rw [ModMask.holds_ofTest, isDown_append]
  by_cases hkey : key = m.key
  · cases action <;> simp [isDown, ModMask.after, hkey]
  · cases action <;> simp [isDown, ModMask.after, hkey]

/-- With the modifiers `held` down before them, the events tell the modifiers that are
down. -/
def TellsFrom (held : ModMask) : List KeyEvent → Prop
  | [] => True
  | e :: rest => e.mods = held \ e.key.ownMask ∧ TellsFrom (held.after e.stroke) rest

/-- Events tell the modifiers from the front on. -/
theorem tellsFrom_append {held : ModMask} {front back : List KeyEvent} :
    TellsFrom held (front ++ back) ↔
      TellsFrom held front ∧
        TellsFrom ((front.map KeyEvent.stroke).foldl ModMask.after held) back := by
  induction front generalizing held with
  | nil => simp [TellsFrom]
  | cons e rest ih =>
    rw [List.cons_append, TellsFrom, TellsFrom, ih, and_assoc]
    rfl

/-- Whether the modifiers are told can be seen event by event. -/
theorem toldMods_iff {events : List KeyEvent} : ToldMods events ↔ TellsFrom ∅ events := by
  have hbehind (before : List Stroke) :
      (∀ (i : Nat) (_ : i < events.length), events[i].mods =
        modsDown (before ++ (events.take i).map KeyEvent.stroke) \ events[i].key.ownMask) ↔
      TellsFrom (modsDown before) events := by
    induction events generalizing before with
    | nil => simp [TellsFrom]
    | cons e rest ih =>
      rw [TellsFrom, ← modsDown_concat, ← ih]
      constructor
      · intro h
        refine ⟨?_, fun i hi => ?_⟩
        · have hfirst := h 0 (by simp)
          simpa using hfirst
        · have hlater := h (i + 1) (by simpa using hi)
          simpa using hlater
      · rintro ⟨hfirst, hlater⟩ i hi
        cases i with
        | zero => simpa using hfirst
        | succ i =>
          have hnext := hlater i (by simpa using hi)
          simpa using hnext
  have hempty : modsDown [] = ∅ := ModMask.ext_holds fun m => by simp [modsDown, isDown]
  have hfresh := hbehind []
  rw [hempty] at hfresh
  exact hfresh

end Keymap
