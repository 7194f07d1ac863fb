import Keymap.Proofs.ModTap.Settlement

/-!
# Presses of mod-taps

Each press of a mod-tap is settled once, as a hold or as a tap, or is left, and
it takes a release to make it a tap. No positions are needed: the presses of a key
are told apart by how many there are.

- `StageOutput.settles?`: the key whose press an output settles.
- `settledCount`, `pressCount`: how many presses of a key are settled, and how
  many there are.
- `Settlement.press_account`: **each press is settled once or left**.
- `Settlement.sublist_of_tap`: a tap is of a press with a release after it.
-/

namespace Keymap

open Stroke

/-- The key of the mod-tap whose press an output settles. -/
def StageOutput.settles? : StageOutput → Option Key
  | .hold modTap _ => some modTap.key
  | .tap modTap _ _ => some modTap.key
  | .pass _ | .lift _ _ => none

/-- How many presses of a key some outputs settle. -/
def settledCount (key : Key) (outputs : List StageOutput) : Nat :=
  outputs.countP fun output => output.settles? == some key

/-- How many presses of a key are among some events. -/
def pressCount (key : Key) (events : List KeyEvent) : Nat :=
  (events.map KeyEvent.stroke).count (.down key)

theorem pressCount_append (key : Key) (front back : List KeyEvent) :
    pressCount key (front ++ back) = pressCount key front + pressCount key back := by
  simp [pressCount]

theorem pressCount_le_of_sublist {events events' : List KeyEvent} (h : events.Sublist events')
    (key : Key) : pressCount key events ≤ pressCount key events' :=
  (h.map KeyEvent.stroke).count_le _

theorem pressCount_cons (key : Key) (event : KeyEvent) (rest : List KeyEvent) :
    pressCount key (event :: rest) =
      pressCount key rest + if event.stroke = .down key then 1 else 0 := by
  rw [pressCount, List.map_cons, List.count_cons, pressCount]
  by_cases h : event.stroke = .down key <;> simp [h]

theorem settledCount_cons (key : Key) (output : StageOutput) (rest : List StageOutput) :
    settledCount key (output :: rest) =
      settledCount key rest + if output.settles? = some key then 1 else 0 := by
  rw [settledCount, List.countP_cons, settledCount]
  by_cases h : output.settles? = some key <;> simp [h]

/-- A release is not a press. -/
theorem pressCount_release {event : KeyEvent} (h : event.action = .release) (key : Key)
    (rest : List KeyEvent) : pressCount key (event :: rest) = pressCount key rest := by
  rw [pressCount_cons, KeyEvent.stroke_of_release h, if_neg (up_ne_down _ _), Nat.add_zero]

/-- A press is one of its key. -/
theorem pressCount_press {event : KeyEvent} (h : event.action = .press) (key : Key)
    (rest : List KeyEvent) :
    pressCount key (event :: rest) = pressCount key rest + if event.key = key then 1 else 0 := by
  rw [pressCount_cons, KeyEvent.stroke_of_press h]
  simp only [down_inj]

namespace Settlement

variable {term : Nat} {ordered : Prop} {held held' : List ModTap} {key : Key}
  {events left : List KeyEvent} {outputs : List StageOutput} {modTap : ModTap}

/-- **Each press of a mod-tap is settled once or left.** -/
theorem press_account (h : Settlement term ordered held events outputs held' left)
    (hkey : ModTap.ofKey? key = some modTap) :
    pressCount key events = settledCount key outputs + pressCount key left := by
  induction h with
  | stop => simp [settledCount]
  | @pass held event rest outputs held' left hordinary _ ih =>
    -- an ordinary key has no mod-tap
    have hne : event.stroke ≠ .down key := by
      intro hdown
      have hsame : event.key = key := congrArg Stroke.key hdown
      simp [← hsame, hordinary] at hkey
    rw [pressCount_cons, settledCount_cons, if_neg hne, if_neg (by simp [StageOutput.settles?])]
    exact ih
  | @lift held event rest outputs held' left other hother hup hheld _ ih =>
    rw [pressCount_release hup, settledCount_cons, if_neg (by simp [StageOutput.settles?])]
    exact ih
  | @stray held event rest outputs held' left other hother hup hheld _ ih =>
    rw [pressCount_release hup]
    exact ih
  | @hold held press rest outputs held' left other hother hdown _ _ ih =>
    rw [pressCount_press hdown, settledCount_cons, ih, ← ModTap.key_of_ofKey? hother]
    simp only [StageOutput.settles?, Option.some.injEq]
    omega
  | @tap held press front release back outputs held' left other hother hdown hup hfirst _ _ ih =>
    -- the release that is taken out of the stream is no press
    rw [pressCount_press hdown, pressCount_append,
      pressCount_release (congrArg Stroke.action hup), ← pressCount_append, settledCount_cons, ih,
      ← ModTap.key_of_ofKey? hother]
    simp only [StageOutput.settles?, Option.some.injEq]
    omega

/-- It takes a press and a release after it to make a tap. -/
theorem sublist_of_tap (h : Settlement term ordered held events outputs held' left)
    {press release : KeyEvent} (hmem : .tap modTap press release ∈ outputs) :
    [.down modTap.key, .up modTap.key].Sublist (events.map KeyEvent.stroke) := by
  induction h with
  | stop => cases hmem
  | pass _ _ ih =>
    rw [List.map_cons]
    exact (ih (List.mem_of_ne_of_mem (by simp) hmem)).cons _
  | lift _ _ _ _ ih =>
    rw [List.map_cons]
    exact (ih (List.mem_of_ne_of_mem (by simp) hmem)).cons _
  | stray _ _ _ _ ih =>
    rw [List.map_cons]
    exact (ih hmem).cons _
  | hold _ _ _ _ ih =>
    rw [List.map_cons]
    exact (ih (List.mem_of_ne_of_mem (by simp) hmem)).cons _
  | @tap held first front second back outputs held' left other hother hdown hup hfirst _ _ ih =>
    rw [List.map_cons, List.map_append, List.map_cons]
    rcases List.mem_cons.mp hmem with htap | hmem
    · obtain ⟨rfl, -, -⟩ := StageOutput.tap.inj htap
      rw [ModTap.key_of_ofKey? hother, KeyEvent.stroke_of_press hdown, hup]
      refine List.Sublist.cons_cons _ ?_
      exact List.singleton_sublist.mpr (by simp)
    · refine ((ih hmem).trans ?_).cons _
      rw [List.map_append]
      exact List.Sublist.append_left (List.sublist_cons_self _ _) _

end Settlement

end Keymap
