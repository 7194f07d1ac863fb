import Keymap.Event
import Keymap.Output.Basic

/-!
# Strokes and levels

A stroke is a key going down or coming up, whoever reports it: an event of the
user, an event behind the chord detector, or a request to the host. The *level*
of a key in a list of strokes is how often it went down less how often it came
up, and the pipeline is judged by what it does to levels.

- `Stroke`, `KeyEvent.stroke`, `Output.stroke?`: strokes and where they are from.
- `level`: downs less ups of a key.
- `Keeps P key n strokes`: from level `n` on, the level of `key` satisfies `P`
  all the way along. `Sound` asks that it never falls below zero.
- `Complete`: no prefix has more ups than downs of a key, and in the end every
  key is up.
- `Alternates`: each key goes down and comes up in turn, down first.
- `Unnested`: no key goes down and later comes up.
-/

namespace Keymap

/-- A key goes down or comes up. -/
structure Stroke where
  key : Key
  action : Action
  deriving DecidableEq

/-- What a key event does to its key. -/
def KeyEvent.stroke (event : KeyEvent) : Stroke :=
  ⟨event.key, event.action⟩

/-- What a request does to a key of the host, if it sends a transition on. -/
def Output.stroke? : Output → Option Stroke
  | .forward key action _ => some ⟨key, action⟩
  | .tap _ _ | .text _ _ => none

namespace Stroke

/-- The key goes down. -/
def down (key : Key) : Stroke :=
  ⟨key, .press⟩

/-- The key comes up. -/
def up (key : Key) : Stroke :=
  ⟨key, .release⟩

@[simp] theorem down_key (key : Key) : (down key).key = key := rfl

@[simp] theorem up_key (key : Key) : (up key).key = key := rfl

/-- A stroke is a down or an up of its key. -/
theorem eq_down_or_up (stroke : Stroke) :
    stroke = down stroke.key ∨ stroke = up stroke.key := by
  obtain ⟨key, action⟩ := stroke
  cases action with
  | press => exact .inl rfl
  | release => exact .inr rfl

end Stroke

theorem KeyEvent.stroke_of_press {event : KeyEvent} (h : event.action = .press) :
    event.stroke = .down event.key := by
  simp [stroke, Stroke.down, h]

theorem KeyEvent.stroke_of_release {event : KeyEvent} (h : event.action = .release) :
    event.stroke = .up event.key := by
  simp [stroke, Stroke.up, h]

namespace Stroke

@[simp] theorem down_ne_up (key key' : Key) : down key ≠ up key' := by
  simp [down, up]

@[simp] theorem up_ne_down (key key' : Key) : up key ≠ down key' := by
  simp [down, up]

@[simp] theorem down_inj {key key' : Key} : down key = down key' ↔ key = key' := by
  simp [down]

@[simp] theorem up_inj {key key' : Key} : up key = up key' ↔ key = key' := by
  simp [up]

/-! ## Levels -/

/-- What a stroke adds to the level of a key. -/
def delta (key : Key) (stroke : Stroke) : Int :=
  if stroke.key = key then
    match stroke.action with
    | .press => 1
    | .release => -1
  else 0

@[simp] theorem delta_down_self (key : Key) : delta key (down key) = 1 := by
  simp [delta, down]

@[simp] theorem delta_up_self (key : Key) : delta key (up key) = -1 := by
  simp [delta, up]

theorem delta_of_ne {key : Key} {stroke : Stroke} (h : stroke.key ≠ key) :
    delta key stroke = 0 := by
  simp [delta, h]

theorem delta_down (key key' : Key) :
    delta key (down key') = if key' = key then 1 else 0 := rfl

theorem delta_up (key key' : Key) :
    delta key (up key') = if key' = key then -1 else 0 := rfl

/-- A stroke other than an up of the key does not lower its level. -/
theorem delta_nonneg {key : Key} {stroke : Stroke} (h : stroke ≠ up key) :
    0 ≤ delta key stroke := by
  rcases stroke.eq_down_or_up with hs | hs
  · rw [hs, delta_down]
    split <;> omega
  · have hk : stroke.key ≠ key := fun hk => h (by rw [hs, hk])
    exact Int.le_of_eq (delta_of_ne hk).symm

/-- How often a key went down less how often it came up. -/
def level (key : Key) : List Stroke → Int
  | [] => 0
  | stroke :: rest => delta key stroke + level key rest

@[simp] theorem level_nil (key : Key) : level key [] = 0 := rfl

@[simp] theorem level_cons (key : Key) (stroke : Stroke) (rest : List Stroke) :
    level key (stroke :: rest) = delta key stroke + level key rest := rfl

@[simp] theorem level_append (key : Key) (front back : List Stroke) :
    level key (front ++ back) = level key front + level key back := by
  induction front with
  | nil => simp
  | cons stroke rest ih => rw [List.cons_append, level_cons, level_cons, ih, Int.add_assoc]

/-- The level is the count of downs less that of ups. -/
theorem level_eq_count (key : Key) (strokes : List Stroke) :
    level key strokes = strokes.count (down key) - strokes.count (up key) := by
  induction strokes with
  | nil => rfl
  | cons stroke rest ih =>
    rw [level_cons, ih, List.count_cons, List.count_cons]
    rcases stroke.eq_down_or_up with hs | hs
    · by_cases hk : stroke.key = key
      · rw [hs, hk]
        simp
        omega
      · rw [hs, delta_down]
        simp [hk]
    · by_cases hk : stroke.key = key
      · rw [hs, hk]
        simp
        omega
      · rw [hs, delta_up]
        simp [hk]

theorem level_cons_of_ne {key : Key} {stroke : Stroke} (h : stroke.key ≠ key)
    (rest : List Stroke) : level key (stroke :: rest) = level key rest := by
  rw [level_cons, delta_of_ne h, Int.zero_add]

/-- Without a stroke of the key the level is zero. -/
theorem level_eq_zero {key : Key} {strokes : List Stroke}
    (h : ∀ stroke ∈ strokes, stroke.key ≠ key) : level key strokes = 0 := by
  induction strokes with
  | nil => rfl
  | cons stroke rest ih =>
    rw [level_cons, delta_of_ne (h stroke (by simp)), ih fun s hs => h s (by simp [hs])]
    rfl

/-- Without an up of the key the level is not negative. -/
theorem level_nonneg {key : Key} {strokes : List Stroke}
    (h : up key ∉ strokes) : 0 ≤ level key strokes := by
  rw [level_eq_count, List.count_eq_zero.mpr h]
  omega

/-! ## What holds all the way along -/

/-- From level `n` on, the level of a key satisfies `P` after every prefix. -/
def Keeps (P : Int → Prop) (key : Key) (n : Int) (strokes : List Stroke) : Prop :=
  ∀ front, front <+: strokes → P (n + level key front)

variable {P : Int → Prop} {key : Key} {n : Int}

@[simp] theorem keeps_nil : Keeps P key n [] ↔ P n := by
  constructor
  · intro h
    simpa using h [] (List.prefix_refl [])
  · intro h front hfront
    rw [List.prefix_nil.mp hfront]
    simpa using h

@[simp] theorem keeps_cons {stroke : Stroke} {rest : List Stroke} :
    Keeps P key n (stroke :: rest) ↔ P n ∧ Keeps P key (n + delta key stroke) rest := by
  constructor
  · intro h
    refine ⟨by simpa using h [] List.nil_prefix, fun front hfront => ?_⟩
    have := h (stroke :: front) ((List.prefix_cons_inj stroke).mpr hfront)
    rwa [level_cons, ← Int.add_assoc] at this
  · rintro ⟨h, hrest⟩ front hfront
    rcases List.prefix_cons_iff.mp hfront with rfl | ⟨tail, rfl, htail⟩
    · simpa using h
    · rw [level_cons, ← Int.add_assoc]
      exact hrest tail htail

theorem keeps_append {front back : List Stroke} :
    Keeps P key n (front ++ back) ↔
      Keeps P key n front ∧ Keeps P key (n + level key front) back := by
  induction front generalizing n with
  | nil =>
    simp only [List.nil_append, keeps_nil, level_nil, Int.add_zero]
    constructor
    · intro h
      exact ⟨by simpa using h [] List.nil_prefix, h⟩
    · exact fun h => h.2
  | cons stroke rest ih =>
    rw [List.cons_append, keeps_cons, keeps_cons, ih, level_cons, Int.add_assoc, and_assoc]

/-- What holds all the way along holds at the start. -/
theorem Keeps.head {strokes : List Stroke} (h : Keeps P key n strokes) : P n := by
  simpa using h [] List.nil_prefix

/-- What holds all the way along holds at the end. -/
theorem Keeps.last {strokes : List Stroke} (h : Keeps P key n strokes) :
    P (n + level key strokes) :=
  h strokes (List.prefix_refl strokes)

/-- From level `n` on, the key never comes up more often than it went down. -/
abbrev Sound (key : Key) (n : Int) (strokes : List Stroke) : Prop :=
  Keeps (0 ≤ ·) key n strokes

theorem sound_cons {stroke : Stroke} {rest : List Stroke} :
    Sound key n (stroke :: rest) ↔ 0 ≤ n ∧ Sound key (n + delta key stroke) rest :=
  keeps_cons

theorem sound_cons_of_ne {stroke : Stroke} {rest : List Stroke} (h : stroke.key ≠ key) :
    Sound key n (stroke :: rest) ↔ Sound key n rest := by
  rw [sound_cons, delta_of_ne h, Int.add_zero]
  exact ⟨fun hs => hs.2, fun hs => ⟨hs.head, hs⟩⟩

theorem sound_append {front back : List Stroke} :
    Sound key n (front ++ back) ↔
      Sound key n front ∧ Sound key (n + level key front) back :=
  keeps_append

/-- Without an up of the key nothing can be unsound. -/
theorem sound_of_not_mem {strokes : List Stroke} (hn : 0 ≤ n) (h : up key ∉ strokes) :
    Sound key n strokes := by
  intro front hfront
  have := level_nonneg fun hmem => h (hfront.subset hmem)
  show 0 ≤ n + level key front
  omega

/-- At most one stroke is sound if the level before and after it is. -/
theorem sound_of_length_le_one {strokes : List Stroke} (hlength : strokes.length ≤ 1)
    (hn : 0 ≤ n) (hlast : 0 ≤ n + level key strokes) : Sound key n strokes := by
  cases strokes with
  | nil => exact keeps_nil.mpr hn
  | cons stroke rest =>
    obtain rfl : rest = [] :=
      List.length_eq_zero_iff.mp (Nat.le_zero.mp (Nat.le_of_succ_le_succ hlength))
    simp only [level_cons, level_nil, Int.add_zero] at hlast
    exact sound_cons.mpr ⟨hn, keeps_nil.mpr hlast⟩

/-- A stream stays sound without a down and the first up after it. -/
theorem Sound.drop_pair {own : Key} {front back : List Stroke}
    (h : Sound key n (down own :: (front ++ up own :: back))) (hfirst : up own ∉ front) :
    Sound key n (front ++ back) := by
  by_cases hown : own = key
  · subst hown
    obtain ⟨hn, hrest⟩ := sound_cons.mp h
    have hback := (sound_cons.mp (sound_append.mp hrest).2).2
    refine sound_append.mpr ⟨sound_of_not_mem hn hfirst, ?_⟩
    rw [delta_down_self, delta_up_self] at hback
    rwa [show n + 1 + level own front + -1 = n + level own front by omega] at hback
  · have hrest := (sound_cons_of_ne hown).mp h
    obtain ⟨hfront, hback⟩ := sound_append.mp hrest
    exact sound_append.mpr ⟨hfront, (sound_cons_of_ne hown).mp hback⟩

/-- A key that goes down and comes up on the spot does not matter. -/
theorem sound_tap {own : Key} {rest : List Stroke} :
    Sound key n (down own :: up own :: rest) ↔ Sound key n rest := by
  have hback : delta key (down own) + delta key (up own) = 0 := by
    rw [delta_down, delta_up]
    split <;> rfl
  have hdown : 0 ≤ delta key (down own) := delta_nonneg (down_ne_up _ _)
  rw [sound_cons, sound_cons, Int.add_assoc n, hback, Int.add_zero]
  constructor
  · rintro ⟨-, -, h⟩
    exact h
  · intro h
    have := h.head
    exact ⟨this, by omega, h⟩

/-- A down and an up of one key do not count. -/
theorem level_drop_pair (key own : Key) (front back : List Stroke) :
    level key (down own :: (front ++ up own :: back)) = level key (front ++ back) := by
  simp only [level_cons, level_append, delta_down, delta_up]
  split <;> omega

/-- From level `n` on, the key is down at most once at any time. -/
abbrev Turns (key : Key) (n : Int) (strokes : List Stroke) : Prop :=
  Keeps (fun l => 0 ≤ l ∧ l ≤ 1) key n strokes

theorem Turns.sound {strokes : List Stroke} (h : Turns key n strokes) :
    Sound key n strokes :=
  fun front hfront => (h front hfront).1

/-- No prefix has more ups than downs of a key, and in the end every key is up. -/
structure Complete (strokes : List Stroke) : Prop where
  sound : ∀ key front, front <+: strokes → front.count (up key) ≤ front.count (down key)
  closed : ∀ key, strokes.count (up key) = strokes.count (down key)

/-- Every key goes down and comes up in turn, down first. -/
def Alternates (strokes : List Stroke) : Prop :=
  ∀ key front, front <+: strokes →
    front.count (up key) ≤ front.count (down key) ∧
      front.count (down key) ≤ front.count (up key) + 1

/-- The prefixes of a list are what one can take of it. -/
theorem forall_prefix_iff {strokes : List Stroke} {p : List Stroke → Prop} :
    (∀ front, front <+: strokes → p front) ↔
      ∀ n ∈ List.range (strokes.length + 1), p (strokes.take n) := by
  constructor
  · intro h n _
    exact h _ (List.take_prefix n strokes)
  · intro h front hfront
    rw [List.prefix_iff_eq_take.mp hfront]
    exact h _ (List.mem_range.mpr (Nat.lt_succ_of_le hfront.length_le))

/-- A key that no stroke is of goes neither up nor down. -/
theorem count_eq_zero_of_ne {strokes front : List Stroke} {key : Key}
    (h : ¬∃ stroke ∈ strokes, stroke.key = key) (hfront : front <+: strokes) :
    front.count (up key) = 0 ∧ front.count (down key) = 0 :=
  ⟨List.count_eq_zero.mpr fun hmem => h ⟨_, hfront.subset hmem, rfl⟩,
    List.count_eq_zero.mpr fun hmem => h ⟨_, hfront.subset hmem, rfl⟩⟩

theorem alternates_iff {strokes : List Stroke} :
    Alternates strokes ↔ ∀ stroke ∈ strokes, ∀ n ∈ List.range (strokes.length + 1),
      (strokes.take n).count (up stroke.key) ≤ (strokes.take n).count (down stroke.key) ∧
        (strokes.take n).count (down stroke.key) ≤
          (strokes.take n).count (up stroke.key) + 1 := by
  constructor
  · intro h stroke _
    exact forall_prefix_iff.mp (h stroke.key)
  · intro h key
    by_cases hkey : ∃ stroke ∈ strokes, stroke.key = key
    · obtain ⟨stroke, hmem, rfl⟩ := hkey
      exact forall_prefix_iff.mpr (h stroke hmem)
    · intro front hfront
      obtain ⟨hup, hdown⟩ := count_eq_zero_of_ne hkey hfront
      omega

theorem complete_iff {strokes : List Stroke} :
    Complete strokes ↔ ∀ stroke ∈ strokes, (∀ n ∈ List.range (strokes.length + 1),
      (strokes.take n).count (up stroke.key) ≤ (strokes.take n).count (down stroke.key)) ∧
        strokes.count (up stroke.key) = strokes.count (down stroke.key) := by
  constructor
  · rintro ⟨hsound, hclosed⟩ stroke -
    exact ⟨forall_prefix_iff.mp (hsound stroke.key), hclosed stroke.key⟩
  · intro h
    constructor
    · intro key
      by_cases hkey : ∃ stroke ∈ strokes, stroke.key = key
      · obtain ⟨stroke, hmem, rfl⟩ := hkey
        exact forall_prefix_iff.mpr (h stroke hmem).1
      · intro front hfront
        obtain ⟨hup, hdown⟩ := count_eq_zero_of_ne hkey hfront
        omega
    · intro key
      by_cases hkey : ∃ stroke ∈ strokes, stroke.key = key
      · obtain ⟨stroke, hmem, rfl⟩ := hkey
        exact (h stroke hmem).2
      · obtain ⟨hup, hdown⟩ := count_eq_zero_of_ne hkey (List.prefix_refl strokes)
        omega

instance (strokes : List Stroke) : Decidable (Alternates strokes) :=
  decidable_of_iff' _ alternates_iff

instance (strokes : List Stroke) : Decidable (Complete strokes) :=
  decidable_of_iff' _ complete_iff

theorem Complete.sound_zero {strokes : List Stroke} (h : Complete strokes) (key : Key) :
    Sound key 0 strokes := by
  intro front hfront
  have := h.sound key front hfront
  show 0 ≤ 0 + level key front
  rw [level_eq_count]
  omega

theorem Complete.level_eq_zero {strokes : List Stroke} (h : Complete strokes) (key : Key) :
    level key strokes = 0 := by
  rw [level_eq_count, h.closed key]
  omega

theorem Alternates.turns {strokes : List Stroke} (h : Alternates strokes) (key : Key) :
    Turns key 0 strokes := by
  intro front hfront
  have := h key front hfront
  show 0 ≤ 0 + level key front ∧ 0 + level key front ≤ 1
  rw [level_eq_count]
  omega

/-- A stream alternates up to any point of it. -/
theorem Alternates.of_prefix {front strokes : List Stroke} (h : Alternates strokes)
    (hfront : front <+: strokes) : Alternates front :=
  fun key first hfirst => h key first (hfirst.trans hfront)

/-- Before a key goes down it is up. -/
theorem Alternates.level_before {front back : List Stroke}
    (h : Alternates (front ++ down key :: back)) : level key front = 0 := by
  have hturns := keeps_append.mp (h.turns key)
  have hlast := hturns.1.last
  have hnext := (keeps_cons.mp hturns.2).2.head
  rw [delta_down_self] at hnext
  omega

/-- A stream that alternates and leaves every key up is complete. -/
theorem Alternates.complete {strokes : List Stroke} (h : Alternates strokes)
    (hclosed : ∀ key, strokes.count (up key) = strokes.count (down key)) :
    Complete strokes :=
  ⟨fun key front hfront => (h key front hfront).1, hclosed⟩

/-! ## Whether a key is down -/

/-- Whether a key is down after some strokes, by the last of its own. -/
def isDown (key : Key) (before : Bool) : List Stroke → Bool
  | [] => before
  | stroke :: rest =>
    isDown key (if stroke.key = key then stroke.action == .press else before) rest

theorem isDown_append (key : Key) (before : Bool) (front back : List Stroke) :
    isDown key before (front ++ back) = isDown key (isDown key before front) back := by
  induction front generalizing before with
  | nil => rfl
  | cons stroke rest ih => exact ih _

theorem isDown_filter {p : Stroke → Bool} (h : ∀ stroke, stroke.key = key → p stroke = true)
    (before : Bool) (strokes : List Stroke) :
    isDown key before (strokes.filter p) = isDown key before strokes := by
  induction strokes generalizing before with
  | nil => rfl
  | cons stroke rest ih =>
    by_cases hp : p stroke = true
    · rw [List.filter_cons_of_pos hp]
      exact ih _
    · have hne : stroke.key ≠ key := fun hkey => hp (h stroke hkey)
      rw [List.filter_cons_of_neg hp, isDown, if_neg hne, ih]

theorem isDown_of_forall_ne {key : Key} {before : Bool} {strokes : List Stroke}
    (h : ∀ stroke ∈ strokes, stroke.key ≠ key) : isDown key before strokes = before := by
  induction strokes generalizing before with
  | nil => rfl
  | cons stroke rest ih =>
    obtain ⟨hfirst, hrest⟩ := List.forall_mem_cons.mp h
    rw [isDown, if_neg hfirst, ih hrest]

/-- A sound stream that ends at level zero leaves the key up. -/
theorem isDown_eq_false {before : Bool} {strokes : List Stroke} (hs : Sound key n strokes)
    (hbefore : before = true → 0 < n) (hlevel : n + level key strokes = 0) :
    isDown key before strokes = false := by
  induction strokes generalizing before n with
  | nil =>
    rw [level_nil, Int.add_zero] at hlevel
    cases before with
    | false => rfl
    | true => exact absurd (hbefore rfl) (by omega)
  | cons stroke rest ih =>
    obtain ⟨hn, hrest⟩ := sound_cons.mp hs
    rw [level_cons, ← Int.add_assoc] at hlevel
    -- the key is down in the rest if it went down last
    refine ih hrest ?_ hlevel
    by_cases hkey : stroke.key = key
    · rw [if_pos hkey]
      intro hpress
      have hdown : stroke = down key := by
        rw [← hkey]
        exact congrArg (Stroke.mk stroke.key) (beq_iff_eq.mp hpress)
      rw [hdown, delta_down_self]
      omega
    · rw [if_neg hkey, delta_of_ne hkey, Int.add_zero]
      exact hbefore

/-- Before a key goes down it is not down. -/
theorem Alternates.isDown_before {front back : List Stroke}
    (h : Alternates (front ++ down key :: back)) : isDown key false front = false := by
  have hfront := (h.of_prefix (List.prefix_append _ _)).turns key
  refine isDown_eq_false hfront.sound (by simp) ?_
  rw [h.level_before]
  rfl

/-! ## Downs that are followed by an up -/

/-- No key goes down and later comes up. -/
def Unnested (strokes : List Stroke) : Prop :=
  strokes.Pairwise fun first second => ∀ key, first = down key → second ≠ up key

@[simp] theorem unnested_nil : Unnested [] :=
  List.Pairwise.nil

theorem unnested_cons {stroke : Stroke} {rest : List Stroke} :
    Unnested (stroke :: rest) ↔
      (∀ key, stroke = down key → up key ∉ rest) ∧ Unnested rest := by
  rw [Unnested, List.pairwise_cons]
  constructor
  · rintro ⟨h, hrest⟩
    exact ⟨fun key hs hmem => h _ hmem key hs rfl, hrest⟩
  · rintro ⟨h, hrest⟩
    exact ⟨fun s hs key hd hu => h key hd (hu ▸ hs), hrest⟩

theorem unnested_append {front back : List Stroke} :
    Unnested (front ++ back) ↔
      Unnested front ∧ Unnested back ∧ ∀ key, down key ∈ front → up key ∉ back := by
  rw [Unnested, List.pairwise_append]
  constructor
  · rintro ⟨hf, hb, h⟩
    exact ⟨hf, hb, fun key hd hu => h _ hd _ hu key rfl rfl⟩
  · rintro ⟨hf, hb, h⟩
    exact ⟨hf, hb, fun s hs s' hs' key hd hu => h key (hd ▸ hs) (hu ▸ hs')⟩

theorem unnested_iff {strokes : List Stroke} :
    Unnested strokes ↔
      strokes.Pairwise fun first second => first = down first.key → second ≠ up first.key := by
  constructor
  · intro h
    exact h.imp fun hne hd => hne _ hd
  · intro h
    refine h.imp fun hne key hd hu => ?_
    rw [hd] at hne
    exact hne rfl hu

instance (strokes : List Stroke) : Decidable (Unnested strokes) :=
  decidable_of_iff' _ unnested_iff

theorem Unnested.sublist {front strokes : List Stroke} (h : Unnested strokes)
    (hs : front.Sublist strokes) : Unnested front :=
  List.Pairwise.sublist hs h

end Stroke

end Keymap
