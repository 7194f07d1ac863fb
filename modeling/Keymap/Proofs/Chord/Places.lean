import Keymap.Proofs.Strokes

/-!
# Places in a stream

Which strokes of a stream a chord takes is said by their places in it: the press
of a key that is down, and the release that will end it.

- `without taken list`: what is left of a list without the places that are taken.
- `Stroke.LastDown`, `Stroke.NextUp`: the press before a point of the stream and
  the release after it.
- `Stroke.Ends`: the two together.
- `without_concat`, `Stroke.ends_concat`, `Stroke.ends_last`: what one more stroke
  at the end changes.
-/

namespace Keymap

/-- What is left of a list without the places that are taken. -/
def without {α : Type} (taken : Nat → Prop) [DecidablePred taken] (list : List α) : List α :=
  (list.zipIdx.filter fun entry => ¬taken entry.2).map Prod.fst

section

variable {α : Type} {taken taken' : Nat → Prop} [DecidablePred taken] [DecidablePred taken']

/-- One more element at the end is left if its place is not taken. -/
theorem without_concat (list : List α) (last : α) :
    without taken (list ++ [last]) =
      without taken list ++ if taken list.length then [] else [last] := by
  rw [without, List.zipIdx_append, List.filter_append, List.map_append, without]
  congr 1
  by_cases h : taken list.length
  · simp [h]
  · simp [h]

/-- Only the places that the list has matter. -/
theorem without_congr {list : List α} (h : ∀ i < list.length, taken i ↔ taken' i) :
    without taken list = without taken' list := by
  rw [without, without]
  refine congrArg _ (List.filter_congr fun entry hmem => ?_)
  obtain ⟨-, hlt, -⟩ := List.mem_zipIdx hmem
  have hiff := h entry.2 (by simpa using hlt)
  simp [hiff]

end

namespace Stroke

/-- The last down of a key among the first `n` strokes is at place `i`. -/
def LastDown (strokes : List Stroke) (key : Key) (n i : Nat) : Prop :=
  i < n ∧ strokes[i]? = some (down key) ∧ ∀ j < n, i < j → strokes[j]? ≠ some (down key)

/-- The next up of a key after the first `n` strokes is at place `i`. -/
def NextUp (strokes : List Stroke) (key : Key) (n i : Nat) : Prop :=
  n ≤ i ∧ strokes[i]? = some (up key) ∧ ∀ j < i, n ≤ j → strokes[j]? ≠ some (up key)

/-- At place `i` is the last down of a key before point `n`, or its next up. -/
def Ends (strokes : List Stroke) (key : Key) (n i : Nat) : Prop :=
  LastDown strokes key n i ∨ NextUp strokes key n i

instance (strokes : List Stroke) (key : Key) (n i : Nat) : Decidable (Ends strokes key n i) :=
  inferInstanceAs (Decidable ((_ ∧ _ ∧ _) ∨ (_ ∧ _ ∧ _)))

variable {strokes : List Stroke} {key : Key} {n i : Nat}

/-- One more stroke at the end does not change who is where before it. -/
theorem ends_concat (stroke : Stroke) (hn : n ≤ strokes.length) (hi : i < strokes.length) :
    Ends (strokes ++ [stroke]) key n i ↔ Ends strokes key n i := by
  have hget (j : Nat) (hj : j < strokes.length) : (strokes ++ [stroke])[j]? = strokes[j]? :=
    List.getElem?_append_left hj
  constructor
  · rintro (⟨hlt, hdown, hlast⟩ | ⟨hle, hup, hnext⟩)
    · refine .inl ⟨hlt, hget i hi ▸ hdown, fun j hj hij => ?_⟩
      rw [← hget j (by omega)]
      exact hlast j hj hij
    · refine .inr ⟨hle, hget i hi ▸ hup, fun j hj hnj => ?_⟩
      rw [← hget j (by omega)]
      exact hnext j hj hnj
  · rintro (⟨hlt, hdown, hlast⟩ | ⟨hle, hup, hnext⟩)
    · refine .inl ⟨hlt, (hget i hi).trans hdown, fun j hj hij => ?_⟩
      rw [hget j (by omega)]
      exact hlast j hj hij
    · refine .inr ⟨hle, (hget i hi).trans hup, fun j hj hnj => ?_⟩
      rw [hget j (by omega)]
      exact hnext j hj hnj

/-- One more stroke is the next up of a key if no up of it came since. -/
theorem ends_last (stroke : Stroke) (hn : n ≤ strokes.length) :
    Ends (strokes ++ [stroke]) key n strokes.length ↔
      stroke = up key ∧ up key ∉ strokes.drop n := by
  have hlast : (strokes ++ [stroke])[strokes.length]? = some stroke := by simp
  constructor
  · rintro (⟨hlt, -⟩ | ⟨-, hup, hnext⟩)
    · omega
    · refine ⟨Option.some.inj (hlast ▸ hup), fun hmem => ?_⟩
      obtain ⟨j, hj⟩ := List.mem_iff_getElem?.mp hmem
      rw [List.getElem?_drop] at hj
      obtain ⟨hlt, -⟩ := List.getElem?_eq_some_iff.mp hj
      refine hnext (n + j) hlt (by omega) ?_
      rw [List.getElem?_append_left hlt, hj]
  · rintro ⟨rfl, hfree⟩
    refine .inr ⟨hn, hlast, fun j hj hnj hup => hfree ?_⟩
    rw [List.getElem?_append_left hj] at hup
    refine List.mem_iff_getElem?.mpr ⟨j - n, ?_⟩
    rw [List.getElem?_drop, show n + (j - n) = j by omega, hup]

/-- At the end of a stream, the last down of a key is all that ends there. -/
theorem ends_of_split {front back : List Stroke} (hback : down key ∉ back)
    (hi : i < (front ++ down key :: back).length) :
    Ends (front ++ down key :: back) key (front ++ down key :: back).length i ↔
      i = front.length := by
  constructor
  · rintro (⟨-, hdown, hlast⟩ | ⟨hle, -⟩)
    · rcases Nat.lt_trichotomy i front.length with hlt | heq | hgt
      · exact absurd (by simp) (hlast front.length (by simp) hlt)
      · exact heq
      · -- behind the last down there is none
        rw [List.getElem?_append_right (by omega), List.getElem?_cons,
          if_neg (by omega)] at hdown
        exact absurd (List.mem_of_getElem? hdown) hback
    · omega
  · rintro rfl
    refine .inl ⟨by simp, by simp, fun j _ hj hdown => hback ?_⟩
    rw [List.getElem?_append_right (by omega), List.getElem?_cons, if_neg (by omega)] at hdown
    exact List.mem_of_getElem? hdown

end Stroke

end Keymap
