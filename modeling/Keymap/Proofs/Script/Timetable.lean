import Keymap.Script.Schedule
import Mathlib.Data.List.Induction

/-!
# The timetable of a script

The schedule of a stroke is built by loops that carry a time and a set of held
modifiers along. The timetable says the same by position: which key goes down or
comes up, when, and with which modifiers held.

- `ModMask.ofList`: the set of the modifiers in a list.
- `Item.timetable`: what an item does, by position.
- `Item.steps_eq_timetable`: the loops do what the timetable says, if no modifier
  stands in a stroke twice. Of one that does, the first release already takes it
  out of the set, though it is still to come up once more.
- `clockAfter`: where items leave the clock; it bounds every number in them.
-/

namespace Keymap

namespace ModMask

/-- The set of the modifiers in a list. -/
def ofList (mods : List Modifier) : ModMask :=
  ofTest (· ∈ mods)

@[simp] theorem holds_ofList (mods : List Modifier) (m : Modifier) :
    (ofList mods).holds m = decide (m ∈ mods) :=
  holds_ofTest _ m

theorem union_single_union_ofList (held : ModMask) (m : Modifier) (mods : List Modifier) :
    held ∪ single m ∪ ofList mods = held ∪ ofList (m :: mods) :=
  ext_holds fun m' => by simp [Bool.or_assoc, beq_eq_decide]

@[simp] theorem empty_union (held : ModMask) : ∅ ∪ held = held :=
  ext_holds fun m => by simp

/-- Taking out a modifier that is not among the others leaves the others. -/
theorem ofList_concat_sdiff {mods : List Modifier} {m : Modifier} (h : m ∉ mods) :
    ofList (mods ++ [m]) \ single m = ofList mods := by
  apply ext_holds
  intro m'
  by_cases hm : m' = m
  · simp [hm, h]
  · simp [hm]

end ModMask

namespace Script

open ModMask (ofList)

/-! ## Loops by position -/

theorem maskOf_eq_ofList (mods : List Modifier) : maskOf mods = ofList mods := by
  have hfold (held : ModMask) :
      mods.foldl (fun mask m => mask ∪ .single m) held = held ∪ ofList mods := by
    induction mods generalizing held with
    | nil => exact ModMask.ext_holds fun m => by simp
    | cons m rest ih => rw [List.foldl_cons, ih, ModMask.union_single_union_ofList]
  rw [maskOf, hfold, ModMask.empty_union]

/-- Each modifier goes down with the ones before it held. -/
theorem pressModifiers_eq_mapIdx (time : Nat) (held : ModMask) (mods : List Modifier) :
    pressModifiers time held mods =
      mods.mapIdx fun i m => .press m.key (held ∪ ofList (mods.take i)) time := by
  induction mods generalizing held with
  | nil => rfl
  | cons m rest ih =>
    have hfirst : held ∪ ofList [] = held := ModMask.ext_holds fun m => by simp
    rw [pressModifiers, ih, List.mapIdx_cons, List.take_zero, hfirst]
    simp only [List.take_succ_cons, ModMask.union_single_union_ofList]

/-- The keys go down five milliseconds apart. -/
theorem pressKeys_eq_mapIdx (time : Nat) (mods : ModMask) (keys : List Key) :
    pressKeys time mods keys = keys.mapIdx fun i key => .press key mods (time + 5 * i) := by
  induction keys generalizing time with
  | nil => rfl
  | cons key rest ih =>
    rw [pressKeys, ih, List.mapIdx_cons]
    have hlater (i : Nat) : time + stagger + 5 * i = time + 5 * (i + 1) := by
      rw [stagger]
      omega
    simp only [hlater, Nat.mul_zero, Nat.add_zero]

/-- Distinct modifiers come up in reverse order, each with the ones before it
still held. -/
theorem releaseModifiers_eq_mapIdx (time : Nat) {mods : List Modifier} (hmods : mods.Nodup) :
    releaseModifiers time (ofList mods) mods.reverse =
      (mods.mapIdx fun i m => .release m.key (ofList (mods.take i)) time).reverse := by
  induction mods using List.reverseRecOn with
  | nil => rfl
  | append_singleton mods m ih =>
    obtain ⟨hrest, -, hapart⟩ := List.nodup_append.mp hmods
    have hm : m ∉ mods := fun hmem => hapart m hmem m List.mem_cons_self rfl
    have hbefore : mods.mapIdx (fun i m' =>
          KeyEvent.release m'.key (ofList ((mods ++ [m]).take i)) time) =
        mods.mapIdx fun i m' => .release m'.key (ofList (mods.take i)) time := by
      rw [List.mapIdx_eq_mapIdx_iff]
      intro i hi
      rw [List.take_append_of_le_length (Nat.le_of_lt hi)]
    rw [List.reverse_append, List.reverse_singleton, List.singleton_append, releaseModifiers,
      ModMask.ofList_concat_sdiff hm, ih hrest, List.mapIdx_concat, List.reverse_append,
      List.reverse_singleton, List.singleton_append, List.take_left, hbefore]

/-! ## Items -/

/-- When a stroke that starts at `start` lets go: the keys go down five
milliseconds apart, and the last is held for `hold`. -/
def releaseTime (start : Nat) (keys : List Key) (hold : Nat) : Nat :=
  start + 5 * (keys.length - 1) + hold

/-- What an item does, starting at a given time, by position. -/
def Item.timetable (start : Nat) : Item → List Step
  | pause _ => []
  | layer l => [.layer l]
  | stroke mods keys hold =>
    let stop := releaseTime start keys hold
    let modifierPresses := mods.mapIdx fun i m =>
      KeyEvent.press m.key (ofList (mods.take i)) start
    let keyPresses := keys.mapIdx fun i key =>
      KeyEvent.press key (ofList mods) (start + 5 * i)
    let keyReleases := keys.map fun key =>
      KeyEvent.release key (ofList mods) stop
    let modifierReleases := mods.mapIdx fun i m =>
      KeyEvent.release m.key (ofList (mods.take i)) stop
    (modifierPresses ++ keyPresses ++ keyReleases ++ modifierReleases.reverse).map .event

/-- The clock after an item. -/
def Item.clockAfter (start : Nat) : Item → Nat
  | pause ms => start + ms
  | layer _ => start
  | stroke _ keys hold => releaseTime start keys hold + 20

/-- No modifier stands in a stroke twice. -/
def Item.Distinct : Item → Prop
  | pause _ => True
  | layer _ => True
  | stroke mods _ _ => mods.Nodup

theorem Item.add_duration (start : Nat) (item : Item) :
    start + item.duration = item.clockAfter start := by
  cases item with
  | pause ms => rfl
  | layer l => rfl
  | stroke mods keys hold =>
    simp only [duration, strokeLength, stagger, gap, clockAfter, releaseTime]
    omega

/-- The loops do what the timetable says. -/
theorem Item.steps_eq_timetable (start : Nat) {item : Item} (h : item.Distinct) :
    item.steps start = item.timetable start := by
  cases item with
  | pause ms => rfl
  | layer l => rfl
  | stroke mods keys hold =>
    have hstop : start + strokeLength keys hold = releaseTime start keys hold := by
      simp only [strokeLength, stagger, releaseTime]
      omega
    simp only [steps, strokeEvents, timetable, hstop, maskOf_eq_ofList,
      pressModifiers_eq_mapIdx, ModMask.empty_union, pressKeys_eq_mapIdx,
      releaseModifiers_eq_mapIdx _ h]

/-! ## Scripts -/

/-- What items do one after another, with the clock at `start`. -/
def timetable (start : Nat) : List Item → List Step
  | [] => []
  | item :: rest => item.timetable start ++ timetable (item.clockAfter start) rest

/-- The clock after items. -/
def clockAfter (start : Nat) (items : List Item) : Nat :=
  items.foldl Item.clockAfter start

/-- The schedule of items in which no stroke names a modifier twice is their
timetable. -/
theorem schedule_eq_timetable (start : Nat) {items : List Item}
    (h : ∀ item ∈ items, item.Distinct) : schedule start items = timetable start items := by
  induction items generalizing start with
  | nil => rfl
  | cons item rest ih =>
    obtain ⟨hitem, hrest⟩ := List.forall_mem_cons.mp h
    rw [schedule, timetable, item.steps_eq_timetable start hitem, item.add_duration, ih _ hrest]

/-- The number of milliseconds that an item gives, if any. -/
def Item.stated : Item → Nat
  | pause ms => ms
  | layer _ => 0
  | stroke _ _ hold => hold

/-- The clock does not run backwards. -/
theorem le_clockAfter (start : Nat) (items : List Item) : start ≤ clockAfter start items := by
  induction items generalizing start with
  | nil => exact Nat.le_refl start
  | cons item rest ih =>
    refine Nat.le_trans ?_ (ih _)
    cases item <;> simp only [Item.clockAfter, releaseTime] <;> omega

/-- The clock counts every number of milliseconds in the items. -/
theorem stated_le_clockAfter (start : Nat) {items : List Item} {item : Item}
    (h : item ∈ items) : item.stated ≤ clockAfter start items := by
  induction items generalizing start with
  | nil => exact nomatch h
  | cons first rest ih =>
    rcases List.mem_cons.mp h with rfl | hrest
    · refine Nat.le_trans ?_ (le_clockAfter _ rest)
      cases item <;> simp only [Item.stated, Item.clockAfter, releaseTime] <;> omega
    · exact ih _ hrest

end Script

end Keymap
