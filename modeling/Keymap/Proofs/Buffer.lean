import Mathlib
import Keymap.Proofs.HeldModifiers
import Keymap.Proofs.Reachable

/-!
# What waits behind a pending mod-tap

The buffer of a pending mod-tap is filled by the events of the user and by replays of other
buffers. However it came about, nothing in it settles the mod-tap; and where each key goes down
and comes up in turn, that leaves room for two events of a key.

- `Stroke.Turns.drop_pair`, `Settlement.turns`: what is left to be settled goes down and comes up
  in turn if the whole stream does.
- `Stroke.Turns.ofKey_sublist`: a key that does so, and does not come up after it went down,
  comes up at most once and then goes down at most once.
- `length_le_of_counts`: a list with few events of each key is short.
- `Engine.callAll_buffer`: **the buffer of a pending mod-tap stays unsettled and small**.
-/

namespace Keymap

instance : Fintype Key :=
  Fintype.ofList Key.all Key.mem_all

/-! ## In turn -/

namespace Stroke

variable {key : Key} {n : Int}

/-- A key that goes down and comes up in turn still does so without a down and the first up after
it. -/
theorem Turns.drop_pair {own : Key} {front back : List Stroke}
    (h : Turns key n (down own :: (front ++ up own :: back))) (hfirst : up own ∉ front) :
    Turns key n (front ++ back) := by
  obtain ⟨hn, hrest⟩ := keeps_cons.mp h
  obtain ⟨hfront, hafter⟩ := keeps_append.mp hrest
  have hback := (keeps_cons.mp hafter).2
  by_cases hown : own = key
  · subst hown
    rw [delta_down_self] at hfront hback
    -- until the key comes up it does not go down again
    have hflat (first : List Stroke) (hcut : first <+: front) : level own first = 0 := by
      have hlevel := level_nonneg fun hmem => hfirst (hcut.subset hmem)
      have hturns := (hfront first hcut).2
      omega
    refine keeps_append.mpr ⟨fun first hcut => ?_, ?_⟩
    · rw [hflat first hcut, Int.add_zero]
      exact hn
    · rw [hflat front (List.prefix_refl front), Int.add_zero]
      rw [hflat front (List.prefix_refl front), delta_up_self] at hback
      rwa [show n + 1 + 0 + -1 = n by omega] at hback
  · rw [delta_of_ne (show (down own).key ≠ key from hown), Int.add_zero] at hfront hback
    rw [delta_of_ne (show (up own).key ≠ key from hown), Int.add_zero] at hback
    exact keeps_append.mpr ⟨hfront, hback⟩

theorem ofKey_cons_of_eq {stroke : Stroke} (h : stroke.key = key) (rest : List Stroke) :
    ofKey key (stroke :: rest) = stroke :: ofKey key rest :=
  List.filter_cons_of_pos (beq_iff_eq.mpr h)

theorem ofKey_cons_of_ne {stroke : Stroke} (h : stroke.key ≠ key) (rest : List Stroke) :
    ofKey key (stroke :: rest) = ofKey key rest :=
  List.filter_cons_of_neg (mt beq_iff_eq.mp h)

theorem Turns.of_cons {stroke : Stroke} {rest : List Stroke} (h : Turns key n (stroke :: rest)) :
    Turns key (n + delta key stroke) rest :=
  (keeps_cons.mp h).2

theorem Turns.of_cons_of_ne {stroke : Stroke} {rest : List Stroke}
    (h : Turns key n (stroke :: rest)) (hkey : stroke.key ≠ key) : Turns key n rest := by
  have hrest := h.of_cons
  rwa [delta_of_ne hkey, Int.add_zero] at hrest

/-- While a key is down and does not come up, nothing is done with it. -/
theorem Turns.ofKey_of_down {strokes : List Stroke} (h : Turns key 1 strokes)
    (hup : up key ∉ strokes) : ofKey key strokes = [] := by
  induction strokes with
  | nil => rfl
  | cons stroke rest ih =>
    obtain ⟨hfirst, hothers⟩ := not_or.mp (mt List.mem_cons.mpr hup)
    by_cases hkey : stroke.key = key
    · rcases stroke.eq_down_or_up with hdown | hcomesUp
      · -- it cannot go down once more
        have hrest := h.of_cons
        rw [hdown, hkey, delta_down_self] at hrest
        exact absurd hrest.head.2 (by decide)
      · rw [hkey] at hcomesUp
        exact absurd hcomesUp.symm hfirst
    · rw [ofKey_cons_of_ne hkey]
      exact ih (h.of_cons_of_ne hkey) hothers

/-- From when a key is up, it goes down at most once if it does not come up after that. -/
theorem Turns.ofKey_of_up {strokes : List Stroke} (h : Turns key 0 strokes)
    (hunnested : Unnested strokes) : (ofKey key strokes).Sublist [down key] := by
  induction strokes with
  | nil => exact List.nil_sublist _
  | cons stroke rest ih =>
    obtain ⟨hfirst, hothers⟩ := unnested_cons.mp hunnested
    by_cases hkey : stroke.key = key
    · have hrest := h.of_cons
      rw [ofKey_cons_of_eq hkey]
      rcases stroke.eq_down_or_up with hdown | hup
      · rw [hkey] at hdown
        rw [hdown, delta_down_self, Int.zero_add] at hrest
        rw [hdown, Turns.ofKey_of_down hrest (hfirst key hdown)]
      · -- it cannot come up once more
        rw [hup, hkey, delta_up_self] at hrest
        exact absurd hrest.head.1 (by decide)
    · rw [ofKey_cons_of_ne hkey]
      exact ih (h.of_cons_of_ne hkey) hothers

/-- A key that goes down and comes up in turn, and does not come up after it went down, comes up at
most once and then goes down at most once. -/
theorem Turns.ofKey_sublist {strokes : List Stroke} (h : Turns key n strokes)
    (hunnested : Unnested strokes) : (ofKey key strokes).Sublist [up key, down key] := by
  induction strokes with
  | nil => exact List.nil_sublist _
  | cons stroke rest ih =>
    obtain ⟨hfirst, hothers⟩ := unnested_cons.mp hunnested
    by_cases hkey : stroke.key = key
    · have hrest := h.of_cons
      have hbefore := h.head
      rw [ofKey_cons_of_eq hkey]
      rcases stroke.eq_down_or_up with hdown | hup
      · rw [hkey] at hdown
        rw [hdown, delta_down_self] at hrest
        obtain rfl : n = 0 := by
          have := hrest.head
          omega
        rw [hdown, Turns.ofKey_of_down hrest (hfirst key hdown)]
        exact (List.Sublist.refl _).cons _
      · rw [hkey] at hup
        rw [hup, delta_up_self] at hrest
        obtain rfl : n = 1 := by
          have := hrest.head
          omega
        rw [hup]
        exact (Turns.ofKey_of_up hrest hothers).cons_cons _
    · rw [ofKey_cons_of_ne hkey]
      exact ih (h.of_cons_of_ne hkey) hothers

end Stroke

open Stroke

/-- What is left to be settled goes down and comes up in turn if the whole stream does. -/
theorem Settlement.turns {term : Nat} {ordered : Prop} {held held' : List ModTap}
    {events left : List KeyEvent} {outputs : List StageOutput} {key : Key}
    (h : Settlement term ordered held events outputs held' left) {n : Int}
    (hturns : Turns key n (events.map KeyEvent.stroke)) :
    ∃ n, Turns key n (left.map KeyEvent.stroke) := by
  induction h generalizing n with
  | stop => exact ⟨n, hturns⟩
  | pass _ _ ih => exact ih hturns.of_cons
  | lift _ _ _ _ ih => exact ih hturns.of_cons
  | stray _ _ _ _ ih => exact ih hturns.of_cons
  | hold _ _ _ _ ih => exact ih hturns.of_cons
  | tap hkey hdown hup hfirst _ _ ih =>
    rw [List.map_cons, List.map_append, List.map_cons, KeyEvent.stroke_of_press hdown, hup]
      at hturns
    rw [List.map_append] at ih
    exact ih (hturns.drop_pair hfirst)

/-- A list in which no key has more than `n` strokes has at most `n` for each key there is. -/
theorem length_le_of_ofKey {strokes : List Stroke} {n : Nat}
    (h : ∀ key, (ofKey key strokes).length ≤ n) : strokes.length ≤ n * Fintype.card Key := by
  have hcount (key : Key) : (strokes.map Stroke.key).count key = (ofKey key strokes).length := by
    rw [List.count, List.countP_map, ofKey, List.countP_eq_length_filter]
    rfl
  calc strokes.length
      = ∑ key ∈ (strokes.map Stroke.key).toFinset, (strokes.map Stroke.key).count key := by
        rw [List.sum_toFinset_count_eq_length, List.length_map]
    _ ≤ (strokes.map Stroke.key).toFinset.card * n :=
        Finset.sum_le_card_nsmul _ _ _ fun key _ => hcount key ▸ h key
    _ ≤ Fintype.card Key * n := Nat.mul_le_mul_right n (Finset.card_le_univ _)
    _ = n * Fintype.card Key := Nat.mul_comm ..

namespace Engine

/-- **The buffer of a pending mod-tap stays unsettled and small.** After every run of a fresh
engine, what waits behind a pending mod-tap has no release of it, and no key in it goes down and
later comes up. If there are no chords and each key goes down and comes up in turn, then each key
comes up at most once in it and then goes down at most once, so that it has at most two events for
each key there is. -/
theorem callAll_buffer (settings : EngineSettings) (calls : List Call) {pending : PendingModTap}
    (hp : ((new settings).callAll calls).1.modTaps.pending = some pending) :
    let strokes := pending.buffer.map KeyEvent.stroke
    up pending.modTap.key ∉ strokes ∧ Unnested strokes ∧
      (settings.combos = [] → Alternates (Call.strokes calls) →
        (∀ key, (ofKey key strokes).Sublist [up key, down key]) ∧
          pending.buffer.length ≤ 2 * Fintype.card Key) := by
  intro strokes
  obtain ⟨queue, hb, hsettled⟩ := new_settles settings calls False.elim
  obtain ⟨press, rfl, hown, hdown, -, -⟩ := hb.of_pending hp
  have hunnested : Unnested strokes := (unnested_cons.mp hb.unnested).2
  refine ⟨hown ▸ hb.up_not_mem hdown, hunnested, fun hcombos halternates => ?_⟩
  have hkeys (key : Key) : (ofKey key strokes).Sublist [up key, down key] := by
    have hidle : (new settings).chords.Idle := ⟨hcombos, rfl, rfl⟩
    rw [ChordDetector.signalAll_idle hidle, Call.events_signals] at hsettled
    obtain ⟨n, hturns⟩ := hsettled.turns (halternates.turns key)
    exact hturns.of_cons.ofKey_sublist hunnested
  have hlength : strokes.length ≤ 2 * Fintype.card Key :=
    length_le_of_ofKey fun key => (hkeys key).length_le
  rw [List.length_map] at hlength
  exact ⟨hkeys, hlength⟩

/-- A tick holds the first of two mod-taps, and what waited behind both is routed again. An `A` that
was down before them comes up and goes down behind the second. -/
theorem callAll_buffer_homeS :
    let calls : List Call :=
      [.event (.press .a ∅ 0), .event (.press .homeN ∅ 10), .event (.press .homeS ∅ 20),
        .event (.release .a ∅ 30), .event (.press .a ∅ 40), .tick 215]
    let pending : PendingModTap :=
      { modTap := ⟨.homeS, .s, .leftGui⟩, buffer := [.release .a ∅ 30, .press .a ∅ 40] }
    let strokes := pending.buffer.map KeyEvent.stroke
    ((new {}).callAll calls).1.modTaps.pending = some pending ∧ Alternates (Call.strokes calls) ∧
      up .homeS ∉ strokes ∧ Unnested strokes ∧
      (∀ key, (ofKey key strokes).Sublist [up key, down key]) ∧
      ofKey .a strokes = [up .a, down .a] ∧ pending.buffer.length ≤ 2 * Fintype.card Key := by
  intro calls pending strokes
  have hpending : ((new {}).callAll calls).1.modTaps.pending = some pending := by cbv
  have halternates : Alternates (Call.strokes calls) := by decide
  obtain ⟨hown, hunnested, hsmall⟩ := callAll_buffer {} calls hpending
  obtain ⟨hkeys, hlength⟩ := hsmall rfl halternates
  exact ⟨hpending, halternates, hown, hunnested, hkeys, by decide, hlength⟩

end Engine

end Keymap
