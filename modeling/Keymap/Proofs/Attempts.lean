import Mathlib.Data.List.Forall2

/-!
# Attempts

What comes of attempts that are made one after another, until one fails.

- `bind_eq_ok`, `bind_eq_error`: one attempt after another.
- `map_eq_ok_iff`, `map_eq_error_iff`: an attempt whose result is changed.
- `mapM_eq_ok_iff`: **a list of attempts gives results if each gives one**, in order.
- `mapM_eq_error_iff`: **it fails as the first that fails**.
-/

namespace Keymap

variable {ε α β γ : Type}

/-- A computation that goes on after another succeeds if both do. -/
theorem bind_eq_ok {m : Except ε α} {f : α → Except ε β} {b : β} :
    m >>= f = .ok b ↔ ∃ a, m = .ok a ∧ f a = .ok b := by
  cases m with
  | error e =>
    constructor
    · intro h
      exact nomatch h
    · rintro ⟨a, ha, -⟩
      exact nomatch ha
  | ok a =>
    constructor
    · intro h
      exact ⟨a, rfl, h⟩
    · rintro ⟨a', ha, h⟩
      cases ha
      exact h

/-- It fails if the first does, or if the first succeeds and the second fails. -/
theorem bind_eq_error {m : Except ε α} {f : α → Except ε β} {e : ε} :
    m >>= f = .error e ↔ m = .error e ∨ ∃ a, m = .ok a ∧ f a = .error e := by
  cases m with
  | error e' =>
    constructor
    · intro h
      exact .inl (congrArg Except.error (Except.error.inj h))
    · rintro (h | ⟨a, ha, -⟩)
      · exact congrArg Except.error (Except.error.inj h)
      · exact nomatch ha
  | ok a =>
    constructor
    · intro h
      exact .inr ⟨a, rfl, h⟩
    · rintro (h | ⟨a', ha, h⟩)
      · exact nomatch h
      · cases ha
        exact h

/-- Where no two results are changed into one, the result before the change is known. -/
theorem map_eq_ok_iff {m : Except ε α} {f : α → β} (hf : Function.Injective f) {a : α} :
    m.map f = .ok (f a) ↔ m = .ok a := by
  cases m with
  | error e => exact iff_of_false nofun nofun
  | ok a' =>
    constructor
    · intro h
      exact congrArg Except.ok (hf (Except.ok.inj h))
    · rintro ⟨⟩
      rfl

theorem map_eq_error_iff {m : Except ε α} {f : α → β} {e : ε} :
    m.map f = .error e ↔ m = .error e := by
  cases m with
  | error e' =>
    constructor
    · intro h
      exact congrArg Except.error (Except.error.inj h)
    · intro h
      exact congrArg Except.error (Except.error.inj h)
  | ok a => exact iff_of_false nofun nofun

/-- **A list of attempts gives results if each gives one**, in order. -/
theorem mapM_eq_ok_iff {f : α → Except ε β} {as : List α} {bs : List β} :
    as.mapM f = .ok bs ↔ List.Forall₂ (fun a b => f a = .ok b) as bs := by
  induction as generalizing bs with
  | nil =>
    rw [List.mapM_nil, List.forall₂_nil_left_iff]
    constructor
    · intro h
      exact (Except.ok.inj h).symm
    · rintro rfl
      rfl
  | cons a rest ih =>
    rw [List.mapM_cons, bind_eq_ok, List.forall₂_cons_left_iff]
    constructor
    · rintro ⟨b, hb, hrest⟩
      obtain ⟨more, hmore, heq⟩ := bind_eq_ok.mp hrest
      exact ⟨b, more, hb, ih.mp hmore, (Except.ok.inj heq).symm⟩
    · rintro ⟨b, more, hb, hmore, rfl⟩
      exact ⟨b, hb, bind_eq_ok.mpr ⟨more, ih.mpr hmore, rfl⟩⟩

/-- What is read one by one without an error is read as a whole. -/
theorem mapM_map_eq_ok {p : α → β} {f : β → Except ε γ} {g : α → γ}
    (h : ∀ a, f (p a) = .ok (g a)) (as : List α) : (as.map p).mapM f = .ok (as.map g) := by
  rw [mapM_eq_ok_iff, List.forall₂_map_left_iff, List.forall₂_map_right_iff]
  exact List.forall₂_same.mpr fun a _ => h a

/-- **A list of attempts fails as the first that fails.** -/
theorem mapM_eq_error_iff {f : α → Except ε β} {as : List α} {e : ε} :
    as.mapM f = .error e ↔
      ∃ front a back, as = front ++ a :: back ∧ (∀ x ∈ front, ∃ b, f x = .ok b) ∧
        f a = .error e := by
  induction as with
  | nil =>
    constructor
    · intro h
      exact nomatch h
    · rintro ⟨front, a, back, h, -⟩
      exact absurd h.symm (List.append_ne_nil_of_right_ne_nil front (List.cons_ne_nil a back))
  | cons a rest ih =>
    rw [List.mapM_cons, bind_eq_error]
    constructor
    · rintro (hfirst | ⟨b, hb, hrest⟩)
      · exact ⟨[], a, rest, rfl, List.forall_mem_nil _, hfirst⟩
      · rcases bind_eq_error.mp hrest with hlater | ⟨more, -, h⟩
        · obtain ⟨front, x, back, rfl, hfront, hx⟩ := ih.mp hlater
          exact ⟨a :: front, x, back, rfl, List.forall_mem_cons.mpr ⟨⟨b, hb⟩, hfront⟩, hx⟩
        · exact nomatch h
    · rintro ⟨front, x, back, hsplit, hfront, hx⟩
      cases front with
      | nil =>
        obtain ⟨rfl, rfl⟩ := List.cons.inj hsplit
        exact .inl hx
      | cons y front =>
        obtain ⟨rfl, rfl⟩ := List.cons.inj hsplit
        obtain ⟨⟨b, hb⟩, hfront⟩ := List.forall_mem_cons.mp hfront
        exact .inr ⟨b, hb, bind_eq_error.mpr (.inl (ih.mpr ⟨front, x, back, rfl, hfront, hx⟩))⟩

end Keymap
