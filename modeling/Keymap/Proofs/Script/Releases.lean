import Keymap.Proofs.Script.Joining
import Keymap.Proofs.Strokes

/-!
# Scripts let every key go

An accepted script is what hands could do at a keyboard: time never runs backwards,
no key comes up more often than it went down, and behind every token all keys are up.

- `Stroke.Complete.append`, `Stroke.complete_downs_ups`: streams that leave every key
  up.
- `strokes_strokeEvents`: what a stroke does to its keys, times and modifiers aside.
- `Spans`: events in order between two times, and the spans of what strokes are made
  of.
- `parse_released`: **an accepted script is in order and lets every key go**.
-/

namespace Keymap

namespace Stroke

/-! ## Streams that leave every key up -/

/-- Completeness by levels. -/
theorem complete_iff_sound {strokes : List Stroke} :
    Complete strokes ↔ ∀ key, Sound key 0 strokes ∧ level key strokes = 0 := by
  constructor
  · intro h key
    exact ⟨h.sound_zero key, h.level_eq_zero key⟩
  · intro h
    constructor
    · intro key front hfront
      have hlevel : 0 ≤ 0 + level key front := (h key).1 front hfront
      rw [level_eq_count] at hlevel
      omega
    · intro key
      have hlevel := (h key).2
      rw [level_eq_count] at hlevel
      omega

theorem complete_nil : Complete [] :=
  complete_iff_sound.mpr fun _ => ⟨keeps_nil.mpr (Int.le_refl 0), rfl⟩

/-- Streams that leave every key up can follow one another. -/
theorem Complete.append {front back : List Stroke} (hfront : Complete front)
    (hback : Complete back) : Complete (front ++ back) := by
  refine complete_iff_sound.mpr fun key => ⟨?_, ?_⟩
  · refine sound_append.mpr ⟨hfront.sound_zero key, ?_⟩
    rw [hfront.level_eq_zero key]
    exact hback.sound_zero key
  · rw [level_append, hfront.level_eq_zero key, hback.level_eq_zero key]
    rfl

theorem level_map_down (key : Key) (keys : List Key) :
    level key (keys.map down) = keys.count key := by
  induction keys with
  | nil => rfl
  | cons first rest ih =>
    rw [List.map_cons, level_cons, ih, delta_down, List.count_cons]
    by_cases hfirst : first = key
    · rw [if_pos hfirst, if_pos (beq_iff_eq.mpr hfirst)]
      omega
    · rw [if_neg hfirst, if_neg (mt beq_iff_eq.mp hfirst)]
      omega

theorem level_map_up (key : Key) (keys : List Key) :
    level key (keys.map up) = -keys.count key := by
  induction keys with
  | nil => rfl
  | cons first rest ih =>
    rw [List.map_cons, level_cons, ih, delta_up, List.count_cons]
    by_cases hfirst : first = key
    · rw [if_pos hfirst, if_pos (beq_iff_eq.mpr hfirst)]
      omega
    · rw [if_neg hfirst, if_neg (mt beq_iff_eq.mp hfirst)]
      omega

/-- Keys can come up as often as they are down. -/
theorem sound_map_up {key : Key} {n : Int} {keys : List Key} (h : keys.count key ≤ n) :
    Sound key n (keys.map up) := by
  intro front hfront
  obtain ⟨first, hfirst, rfl⟩ := List.prefix_map_iff.mp hfront
  have hle : first.count key ≤ keys.count key := hfirst.sublist.count_le key
  show 0 ≤ n + level key (first.map up)
  rw [level_map_up]
  omega

/-- Keys that go down and then all come up, in whatever order, are up. -/
theorem complete_downs_ups {keys keys' : List Key} (h : keys.Perm keys') :
    Complete (keys.map down ++ keys'.map up) := by
  refine complete_iff_sound.mpr fun key => ⟨?_, ?_⟩
  · refine sound_append.mpr ⟨sound_of_not_mem (Int.le_refl 0) ?_, sound_map_up ?_⟩
    · intro hmem
      obtain ⟨other, -, hother⟩ := List.mem_map.mp hmem
      exact down_ne_up _ _ hother
    · rw [level_map_down, h.count_eq]
      omega
  · rw [level_append, level_map_down, level_map_up, h.count_eq]
    omega

end Stroke

namespace Script

open Stroke

/-! ## The strokes of a script -/

theorem strokes_pressModifiers (time : Nat) (held : ModMask) (mods : List Modifier) :
    (pressModifiers time held mods).map KeyEvent.stroke = (mods.map Modifier.key).map down := by
  induction mods generalizing held with
  | nil => rfl
  | cons m rest ih => exact congrArg (List.cons _) (ih _)

theorem strokes_releaseModifiers (time : Nat) (held : ModMask) (mods : List Modifier) :
    (releaseModifiers time held mods).map KeyEvent.stroke = (mods.map Modifier.key).map up := by
  induction mods generalizing held with
  | nil => rfl
  | cons m rest ih => exact congrArg (List.cons _) (ih _)

theorem strokes_pressKeys (time : Nat) (mods : ModMask) (keys : List Key) :
    (pressKeys time mods keys).map KeyEvent.stroke = keys.map down := by
  induction keys generalizing time with
  | nil => rfl
  | cons key rest ih => exact congrArg (List.cons _) (ih _)

theorem strokes_releases (time : Nat) (mods : ModMask) (keys : List Key) :
    (keys.map (KeyEvent.release · mods time)).map KeyEvent.stroke = keys.map up := by
  rw [List.map_map]
  rfl

/-- A stroke presses its modifiers and its keys, and then lets go of its keys and its
modifiers. -/
theorem strokes_strokeEvents (start : Nat) (mods : List Modifier) (keys : List Key)
    (hold : Nat) :
    (strokeEvents start mods keys hold).map KeyEvent.stroke =
      (mods.map Modifier.key ++ keys).map down ++
        (keys ++ (mods.map Modifier.key).reverse).map up := by
  simp only [strokeEvents, List.map_append, strokes_pressModifiers, strokes_pressKeys,
    strokes_releases, strokes_releaseModifiers, List.map_reverse, List.append_assoc]

/-- **An item leaves every key up.** -/
theorem complete_item (start : Nat) (item : Item) :
    Complete ((events (item.steps start)).map KeyEvent.stroke) := by
  cases item with
  | pause ms => exact complete_nil
  | layer l => exact complete_nil
  | stroke mods keys hold =>
    rw [Item.steps, events_map_event, strokes_strokeEvents]
    apply complete_downs_ups
    exact List.perm_append_comm.trans (List.Perm.append_left keys (List.reverse_perm _).symm)

theorem complete_schedule (start : Nat) (items : List Item) :
    Complete ((events (schedule start items)).map KeyEvent.stroke) := by
  induction items generalizing start with
  | nil => exact complete_nil
  | cons item rest ih =>
    rw [schedule, events_append, List.map_append]
    exact (complete_item start item).append (ih _)

/-! ## The times of a script -/

/-- Events one after another between two times. -/
structure Spans (start stop : Nat) (es : List KeyEvent) : Prop where
  le : start ≤ stop
  sorted : es.Pairwise fun first second => first.time ≤ second.time
  within : ∀ e ∈ es, start ≤ e.time ∧ e.time ≤ stop

namespace Spans

variable {start middle stop : Nat} {es more : List KeyEvent}

theorem append (h : Spans start middle es) (h' : Spans middle stop more) :
    Spans start stop (es ++ more) where
  le := Nat.le_trans h.le h'.le
  sorted := by
    refine List.pairwise_append.mpr ⟨h.sorted, h'.sorted, ?_⟩
    intro first hfirst second hsecond
    exact Nat.le_trans (h.within first hfirst).2 (h'.within second hsecond).1
  within e he := by
    rcases List.mem_append.mp he with hfirst | hsecond
    · exact ⟨(h.within e hfirst).1, Nat.le_trans (h.within e hfirst).2 h'.le⟩
    · exact ⟨Nat.le_trans h.le (h'.within e hsecond).1, (h'.within e hsecond).2⟩

/-- Without events any time can go by. -/
theorem nil (h : start ≤ stop) : Spans start stop [] :=
  ⟨h, List.Pairwise.nil, by simp⟩

theorem cons {e : KeyEvent} (hstart : start ≤ e.time) (h : Spans e.time stop es) :
    Spans start stop (e :: es) where
  le := Nat.le_trans hstart h.le
  sorted := List.pairwise_cons.mpr ⟨fun second hsecond => (h.within second hsecond).1, h.sorted⟩
  within := by
    refine List.forall_mem_cons.mpr ⟨⟨hstart, h.le⟩, fun second hsecond => ?_⟩
    exact ⟨Nat.le_trans hstart (h.within second hsecond).1, (h.within second hsecond).2⟩

end Spans

theorem spans_pressModifiers (time : Nat) (held : ModMask) (mods : List Modifier) :
    Spans time time (pressModifiers time held mods) := by
  induction mods generalizing held with
  | nil => exact .nil (Nat.le_refl time)
  | cons m rest ih => exact .cons (Nat.le_refl time) (ih _)

theorem spans_releaseModifiers (time : Nat) (held : ModMask) (mods : List Modifier) :
    Spans time time (releaseModifiers time held mods) := by
  induction mods generalizing held with
  | nil => exact .nil (Nat.le_refl time)
  | cons m rest ih => exact .cons (Nat.le_refl time) (ih _)

theorem spans_releases (time : Nat) (mask : ModMask) (keys : List Key) :
    Spans time time (keys.map (KeyEvent.release · mask time)) := by
  induction keys with
  | nil => exact .nil (Nat.le_refl time)
  | cons key rest ih => exact .cons (Nat.le_refl time) ih

/-- The keys go down one after another, and the last of them no later than `hold`
before the end of the stroke. -/
theorem spans_pressKeys (start : Nat) (mask : ModMask) (keys : List Key) (hold : Nat) :
    Spans start (start + strokeLength keys hold) (pressKeys start mask keys) := by
  induction keys generalizing start with
  | nil => exact .nil (Nat.le_add_right _ _)
  | cons key rest ih =>
    refine .cons (Nat.le_refl start) ?_
    cases rest with
    | nil => exact .nil (Nat.le_add_right _ _)
    | cons next rest =>
      have hlonger : start + strokeLength (key :: next :: rest) hold =
          start + stagger + strokeLength (next :: rest) hold := by
        simp only [strokeLength, List.length_cons, stagger]
        omega
      rw [hlonger]
      exact (Spans.nil (Nat.le_add_right start stagger)).append (ih _)

theorem spans_strokeEvents (start : Nat) (mods : List Modifier) (keys : List Key) (hold : Nat) :
    Spans start (start + strokeLength keys hold) (strokeEvents start mods keys hold) :=
  (((spans_pressModifiers _ _ _).append (spans_pressKeys _ _ _ _)).append
    (spans_releases _ _ _)).append (spans_releaseModifiers _ _ _)

/-- **An item keeps within its time.** -/
theorem spans_item (start : Nat) (item : Item) :
    Spans start (item.clockAfter start) (events (item.steps start)) := by
  rw [← item.add_duration]
  cases item with
  | pause ms => exact .nil (Nat.le_add_right _ _)
  | layer l => exact .nil (Nat.le_add_right _ _)
  | stroke mods keys hold =>
    rw [Item.steps, events_map_event]
    have hgap := Spans.nil (Nat.le_add_right (start + strokeLength keys hold) gap)
    have hitem := (spans_strokeEvents start mods keys hold).append hgap
    rwa [List.append_nil, Nat.add_assoc] at hitem

theorem spans_schedule (start : Nat) (items : List Item) :
    Spans start (clockAfter start items) (events (schedule start items)) := by
  induction items generalizing start with
  | nil => exact .nil (Nat.le_refl start)
  | cons item rest ih =>
    rw [schedule, events_append, item.add_duration]
    exact (spans_item start item).append (ih _)

/-! ## Scripts -/

/-- **An accepted script is in order and lets every key go.** The times of its events
never decrease, no prefix of it has more ups than downs of a key, and behind each of
its tokens every key has come up as often as it went down. -/
theorem parse_released {text : String} {steps : List Step} (h : parse text = .ok steps) :
    (events steps).Pairwise (fun first second => first.time ≤ second.time) ∧
      Complete ((events steps).map KeyEvent.stroke) ∧
      ∀ front back, tokens text = front ++ back →
        ∃ done rest, (readItems 1 front).map (schedule 0) = .ok done ∧ steps = done ++ rest ∧
          Complete ((events done).map KeyEvent.stroke) := by
  obtain ⟨items, hitems, rfl⟩ := parse_eq_ok_iff.mp h
  refine ⟨(spans_schedule 0 items).sorted, complete_schedule 0 items, ?_⟩
  intro front back hsplit
  rw [hsplit] at hitems
  obtain ⟨first, more, hfirst, -, rfl⟩ := readItems_append_eq_ok_iff.mp hitems
  refine ⟨schedule 0 first, schedule (clockAfter 0 first) more, ?_, ?_, complete_schedule 0 first⟩
  · rw [hfirst]
    rfl
  · exact schedule_append 0 first more

/-- A modifier twice in front of a key that is there twice, a layer change, and a key
that is not held at all. -/
theorem parse_released_twice :
    let es : List KeyEvent :=
      [.press .leftShift ∅ 0, .press .leftShift { leftShift := true } 0,
        .press .l { leftShift := true } 0, .press .l { leftShift := true } 5,
        .release .l { leftShift := true } 25, .release .l { leftShift := true } 25,
        .release .leftShift ∅ 25, .release .leftShift ∅ 25]
    let more : List KeyEvent := [.press .m ∅ 45, .release .m ∅ 45]
    parse "S-S-L+L layer=nav M@0" = .ok (es.map .event ++ .layer .nav :: more.map .event) ∧
      (es ++ more).Pairwise (fun first second => first.time ≤ second.time) ∧
      Complete ((es ++ more).map KeyEvent.stroke) := by
  intro es more
  have hsteps : parse "S-S-L+L layer=nav M@0" =
      .ok (es.map .event ++ .layer .nav :: more.map .event) := by
    decide +kernel
  obtain ⟨hsorted, hcomplete, -⟩ := parse_released hsteps
  exact ⟨hsteps, hsorted, hcomplete⟩

end Script

end Keymap
