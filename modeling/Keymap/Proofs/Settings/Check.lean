import Keymap.Proofs.Chord.Firing
import Keymap.Settings.Basic
import Mathlib.Data.Sym.Sym2

/-!
# Which settings pass the check

The check goes through the chords in order and compares each with those before it
alone. What it finds depends on the order; whether it finds anything does not.

- `Chord.WellFormed`, `Chord.Unambiguous`: what each chord has to be, and what no two
  chords may have in common.
- `Chord.find?_joins_eq_some_iff`: among unambiguous chords **the first that joins two keys
  is the only one**. `Chord.find?_joins_perm`: it is the same in any order.
- `Settings.checkChords_eq_ok_iff`: the chords that pass.
- `Settings.check_eq_ok_iff`: **settings pass exactly if every time lies in its range and
  the chords are well formed and unambiguous**.
- `Settings.check_accepts_iff`: the same in numbers and unordered pairs of keys.
-/

namespace Keymap

namespace Chord

/-- Two chords have the same two keys, in either order. -/
def SameKeys (chord other : Chord) : Prop :=
  chord.HasKeys other.first other.second

/-- What a chord has to be: two different keys, neither of them a modifier, that stand for
something. -/
structure WellFormed (chord : Chord) : Prop where
  different : chord.first ≠ chord.second
  plain : chord.first.isModifier = false ∧ chord.second.isModifier = false
  output : chord.output ≠ .noKey

/-- No two of the chords have the same keys. -/
def Unambiguous (chords : List Chord) : Prop :=
  chords.Pairwise fun one other => ¬one.SameKeys other

/-- The two keys of a chord, in no order. -/
def pair (chord : Chord) : Sym2 Key :=
  s(chord.first, chord.second)

theorem wellFormed_iff {chord : Chord} :
    chord.WellFormed ↔ chord.first ≠ chord.second ∧
      (chord.first.isModifier = false ∧ chord.second.isModifier = false) ∧
        chord.output ≠ .noKey := by
  constructor
  · intro h
    exact ⟨h.different, h.plain, h.output⟩
  · rintro ⟨hdifferent, hplain, houtput⟩
    exact ⟨hdifferent, hplain, houtput⟩

theorem pair_eq_pair_iff {chord other : Chord} :
    chord.pair = other.pair ↔ chord.SameKeys other :=
  Sym2.eq_iff

/-- Chords are unambiguous if each has a pair of keys of its own. -/
theorem unambiguous_iff_nodup {chords : List Chord} :
    Unambiguous chords ↔ (chords.map pair).Nodup := by
  unfold Unambiguous List.Nodup
  rw [List.pairwise_map]
  simp only [ne_eq, pair_eq_pair_iff]

theorem SameKeys.symm {chord other : Chord} (h : chord.SameKeys other) :
    other.SameKeys chord := by
  obtain ⟨hfirst, hsecond⟩ | ⟨hfirst, hsecond⟩ := h
  · exact .inl ⟨hfirst.symm, hsecond.symm⟩
  · exact .inr ⟨hsecond.symm, hfirst.symm⟩

/-- Chords that join the same two keys have the same keys. -/
theorem sameKeys_of_joins {chord other : Chord} {one two : Key}
    (h : chord.joins one two = true) (h' : other.joins one two = true) :
    chord.SameKeys other := by
  obtain ⟨-, ⟨rfl, rfl⟩ | ⟨rfl, rfl⟩⟩ := joins_iff.mp h
  · exact SameKeys.symm (joins_iff.mp h').2
  · exact SameKeys.symm ((joins_iff.mp h').2.elim .inr .inl)

/-- Unambiguous chords are so in any order. -/
theorem Unambiguous.perm {chords other : List Chord} (h : Unambiguous chords)
    (same : other.Perm chords) : Unambiguous other :=
  (same.pairwise_iff fun hone hother => hone hother.symm).mpr h

/-- Among unambiguous chords, the first that joins two keys is the only one. -/
theorem find?_joins_eq_some_iff {chords : List Chord} (h : Unambiguous chords)
    {one two : Key} {chord : Chord} :
    chords.find? (·.joins one two) = some chord ↔
      chord ∈ chords ∧ chord.joins one two = true := by
  constructor
  · intro hfound
    exact ⟨List.mem_of_find?_eq_some hfound, by simpa using List.find?_some hfound⟩
  · rintro ⟨hmem, hjoins⟩
    obtain ⟨front, back, rfl⟩ := List.append_of_mem hmem
    rw [List.find?_eq_some_iff_append]
    refine ⟨hjoins, front, back, rfl, fun earlier hearlier => ?_⟩
    have hdiffer : ¬earlier.SameKeys chord :=
      (List.pairwise_append.mp h).2.2 earlier hearlier chord List.mem_cons_self
    rw [Bool.not_eq_true', ← Bool.not_eq_true]
    intro hjoins'
    exact hdiffer (sameKeys_of_joins hjoins' hjoins)

/-- **Which of some unambiguous chords joins two keys does not depend on their order.** -/
theorem find?_joins_perm {chords other : List Chord} (h : Unambiguous chords)
    (same : other.Perm chords) (one two : Key) :
    other.find? (·.joins one two) = chords.find? (·.joins one two) := by
  ext chord
  rw [find?_joins_eq_some_iff h, find?_joins_eq_some_iff (h.perm same), same.mem_iff]

end Chord

/-- A time lies in its range. -/
def Duration.InRange (settings : Settings) (duration : Duration) : Prop :=
  duration.least ≤ duration.of settings ∧ duration.of settings ≤ duration.greatest

instance (settings : Settings) (duration : Duration) :
    Decidable (duration.InRange settings) :=
  inferInstanceAs (Decidable (_ ∧ _))

theorem Duration.forall_inRange_iff {settings : Settings} :
    (∀ duration, Duration.InRange settings duration) ↔
      (1 ≤ settings.tappingTerm ∧ settings.tappingTerm ≤ 2000) ∧
        (1 ≤ settings.comboTerm ∧ settings.comboTerm ≤ 500) ∧
          (0 ≤ settings.sendDelay ∧ settings.sendDelay ≤ 100) := by
  constructor
  · intro h
    exact ⟨h .tappingTerm, h .comboTerm, h .sendDelay⟩
  · rintro ⟨htapping, hcombo, hsend⟩ duration
    cases duration with
    | tappingTerm => exact htapping
    | comboTerm => exact hcombo
    | sendDelay => exact hsend

namespace Settings

theorem checkDuration_eq_ok_iff {settings : Settings} {duration : Duration} :
    settings.checkDuration duration = .ok () ↔ duration.InRange settings := by
  unfold checkDuration
  show (if duration.InRange settings then _ else _) = _ ↔ _
  split
  · next hin => exact iff_of_true rfl hin
  · next hout => exact iff_of_false nofun hout

/-- A chord has no fault if it is well formed and no earlier chord has its keys. -/
theorem chordFault?_eq_none_iff {earlier : List Chord} {index : Nat} {chord : Chord} :
    chordFault? earlier index chord = none ↔
      chord.WellFormed ∧ ∀ old ∈ earlier, ¬old.SameKeys chord := by
  have hsame (old : Chord) (hdifferent : chord.first ≠ chord.second) :
      (old.contains chord.first && old.contains chord.second) = true ↔ old.SameKeys chord := by
    have hjoins := @Chord.joins_iff old chord.first chord.second
    unfold Chord.joins at hjoins
    rw [bne_iff_ne.mpr hdifferent, Bool.true_and] at hjoins
    rw [hjoins]
    exact and_iff_right hdifferent
  unfold chordFault?
  split
  · next htwice => exact iff_of_false nofun fun h => h.1.different htwice
  next hdifferent =>
  split
  · next hmodifier =>
    refine iff_of_false nofun fun h => ?_
    rw [h.1.plain.1, h.1.plain.2] at hmodifier
    exact Bool.false_ne_true hmodifier
  next hplain =>
  split
  · next hnothing => exact iff_of_false nofun fun h => h.1.output hnothing
  next houtput =>
  split
  · next hdefined =>
    obtain ⟨old, hmem, hcontains⟩ := List.any_eq_true.mp hdefined
    exact iff_of_false nofun fun h => h.2 old hmem ((hsame old hdifferent).mp hcontains)
  · next hnew =>
    refine iff_of_true rfl ⟨⟨hdifferent, ?_, houtput⟩, fun old hmem hkeys => ?_⟩
    · rwa [Bool.or_eq_true, not_or, Bool.not_eq_true, Bool.not_eq_true] at hplain
    · exact hnew (List.any_eq_true.mpr ⟨old, hmem, (hsame old hdifferent).mpr hkeys⟩)

theorem checkChords_cons_eq_ok_iff {earlier : List Chord} {chord : Chord} {rest : List Chord} :
    checkChords earlier (chord :: rest) = .ok () ↔
      chordFault? earlier earlier.length chord = none ∧
        checkChords (earlier ++ [chord]) rest = .ok () := by
  rw [checkChords]
  cases chordFault? earlier earlier.length chord with
  | none => exact (and_iff_right rfl).symm
  | some fault => exact iff_of_false nofun fun h => nomatch h.1

/-- Behind unambiguous chords, chords pass if each is well formed and they are unambiguous
all together. -/
theorem checkChords_eq_ok_iff {earlier chords : List Chord} (h : Chord.Unambiguous earlier) :
    checkChords earlier chords = .ok () ↔
      (∀ chord ∈ chords, chord.WellFormed) ∧ Chord.Unambiguous (earlier ++ chords) := by
  induction chords generalizing earlier with
  | nil =>
    rw [List.append_nil]
    exact iff_of_true rfl ⟨List.forall_mem_nil _, h⟩
  | cons chord rest ih =>
    have hlonger : Chord.Unambiguous (earlier ++ [chord]) ↔
        ∀ old ∈ earlier, ¬old.SameKeys chord := by
      unfold Chord.Unambiguous at h ⊢
      rw [List.pairwise_append, and_iff_right h, and_iff_right (List.pairwise_singleton _ _)]
      simp only [List.forall_mem_singleton]
    rw [checkChords_cons_eq_ok_iff, chordFault?_eq_none_iff, List.forall_mem_cons,
      show earlier ++ chord :: rest = earlier ++ [chord] ++ rest by simp]
    constructor
    · rintro ⟨⟨hchord, hnew⟩, hrest⟩
      obtain ⟨hformed, hall⟩ := (ih (hlonger.mpr hnew)).mp hrest
      exact ⟨⟨hchord, hformed⟩, hall⟩
    · rintro ⟨⟨hchord, hformed⟩, hall⟩
      have hfront := (List.pairwise_append.mp hall).1
      exact ⟨⟨hchord, hlonger.mp hfront⟩, (ih hfront).mpr ⟨hformed, hall⟩⟩

theorem then_eq_ok_iff {first second : Except Problem Unit} :
    (do first; second) = .ok () ↔ first = .ok () ∧ second = .ok () := by
  cases first with
  | error problem => exact iff_of_false nofun fun h => nomatch h.1
  | ok done => exact (and_iff_right rfl).symm

/-- **Settings pass exactly if every time lies in its range and the chords are well formed
and unambiguous.** -/
theorem check_eq_ok_iff {settings : Settings} :
    settings.check = .ok () ↔
      (∀ duration, Duration.InRange settings duration) ∧
        (∀ chord ∈ settings.combos, chord.WellFormed) ∧
          Chord.Unambiguous settings.combos := by
  unfold check
  rw [then_eq_ok_iff, then_eq_ok_iff, then_eq_ok_iff, checkDuration_eq_ok_iff,
    checkDuration_eq_ok_iff, checkDuration_eq_ok_iff,
    @checkChords_eq_ok_iff [] _ List.Pairwise.nil]
  constructor
  · rintro ⟨htapping, hcombo, hsend, hchords⟩
    exact ⟨Duration.forall_inRange_iff.mpr ⟨htapping, hcombo, hsend⟩, hchords⟩
  · rintro ⟨htimes, hchords⟩
    exact ⟨htimes .tappingTerm, htimes .comboTerm, htimes .sendDelay, hchords⟩

/-- **The check accepts exactly the well-formed settings**: every time lies in its range,
every chord has two different keys that are no modifiers and an output, and no two chords
have the same two keys, in whichever order. -/
theorem check_accepts_iff (settings : Settings) :
    settings.check = .ok () ↔
      (1 ≤ settings.tappingTerm ∧ settings.tappingTerm ≤ 2000) ∧
      (1 ≤ settings.comboTerm ∧ settings.comboTerm ≤ 500) ∧
      (0 ≤ settings.sendDelay ∧ settings.sendDelay ≤ 100) ∧
      (∀ chord ∈ settings.combos, chord.first ≠ chord.second ∧
        (chord.first.isModifier = false ∧ chord.second.isModifier = false) ∧
          chord.output ≠ .noKey) ∧
      (settings.combos.map Chord.pair).Nodup := by
  have hformed : (∀ chord ∈ settings.combos, chord.WellFormed) ↔
      ∀ chord ∈ settings.combos, chord.first ≠ chord.second ∧
        (chord.first.isModifier = false ∧ chord.second.isModifier = false) ∧
          chord.output ≠ .noKey :=
    forall₂_congr fun chord _ => Chord.wellFormed_iff
  rw [check_eq_ok_iff, Duration.forall_inRange_iff, hformed, Chord.unambiguous_iff_nodup]
  constructor
  · rintro ⟨⟨htapping, hcombo, hsend⟩, hchords⟩
    exact ⟨htapping, hcombo, hsend, hchords⟩
  · rintro ⟨htapping, hcombo, hsend, hchords⟩
    exact ⟨⟨htapping, hcombo, hsend⟩, hchords⟩

end Settings

end Keymap
