import Keymap.Proofs.ModTap.Settlement

/-!
# What settling does to levels

Settling swallows strokes and makes up others, but it keeps the account of every
key.

- `ModTap.heldCount`: how often the mod-tap of a key is held.
- `Settlement.modTap_account`: the level of a mod-tap is what is held of it and
  what is left to be settled.
- `StageOutput.strokes`: what leaves the stage does to ordinary keys; a hold and
  a lift move the key of their modifier.
- `ModTap.modLevel`: the level that held mod-taps give the key of a modifier.
- `Settlement.ordinary_account`: **an ordinary key leaves the stage as sound as it
  came in**, and its level is what came in and what is held.
-/

namespace Keymap

open Stroke

/-- What a settled key does to the keys of the host. -/
def StageOutput.strokes : StageOutput → List Stroke
  | .pass event => [event.stroke]
  | .tap _ press release => [press.stroke, release.stroke]
  | .hold modTap first => if first then [.down modTap.modifier.key] else []
  | .lift modTap last => if last then [.up modTap.modifier.key] else []

/-! ## Held mod-taps -/

namespace ModTap

/-- How often the mod-tap of a key is held. -/
def heldCount (key : Key) (held : List ModTap) : Int :=
  held.countP fun modTap => modTap.key == key

/-- The level that held mod-taps give the key of a modifier. -/
def modLevel (key : Key) (held : List ModTap) : Int :=
  if held.any fun modTap => modTap.modifier.key == key then 1 else 0

@[simp] theorem heldCount_nil (key : Key) : heldCount key [] = 0 := rfl

@[simp] theorem modLevel_nil (key : Key) : modLevel key [] = 0 := rfl

theorem modLevel_nonneg (key : Key) (held : List ModTap) : 0 ≤ modLevel key held := by
  rw [modLevel]
  split <;> omega

theorem heldCount_nonneg (key : Key) (held : List ModTap) : 0 ≤ heldCount key held :=
  Int.natCast_nonneg _

/-- Lifting a mod-tap takes one that is held away. -/
theorem perm_lift {held : List ModTap} {key : Key} {modTap : ModTap}
    (hkey : ofKey? key = some modTap) (genuine : Genuine held)
    (hheld : (held.any fun other => other.key == modTap.key) = true) :
    held.Perm ((held.eraseP fun other => other.key == modTap.key) ++ [modTap]) := by
  obtain ⟨other, hmem, hother⟩ := List.any_eq_true.mp hheld
  obtain ⟨lifted, front, back, -, hlifted, hsplit, herased⟩ :=
    List.exists_of_eraseP (p := fun other => other.key == modTap.key) hmem hother
  have hsame : lifted = modTap := by
    have hgenuine := genuine lifted (by simp [hsplit])
    rw [beq_iff_eq.mp hlifted, key_of_ofKey? hkey, hkey] at hgenuine
    exact (Option.some.inj hgenuine).symm
  rw [herased, hsplit, hsame, List.append_assoc]
  exact List.Perm.append_left front (List.perm_append_singleton modTap back).symm

theorem heldCount_perm {held held' : List ModTap} (key : Key) (h : held.Perm held') :
    heldCount key held = heldCount key held' :=
  congrArg Nat.cast (h.countP_eq _)

/-- A hold counts as its key going down. -/
theorem heldCount_hold (key : Key) (held : List ModTap) (modTap : ModTap) :
    heldCount key (held ++ [modTap]) = heldCount key held + delta key (.down modTap.key) := by
  rw [heldCount, heldCount, List.countP_append, List.countP_singleton, delta_down]
  by_cases h : modTap.key = key
  · simp [h]
  · simp [h]

/-- A lift counts as its key coming up. -/
theorem heldCount_lift {held rest : List ModTap} {modTap : ModTap} (key : Key)
    (h : held.Perm (rest ++ [modTap])) :
    heldCount key rest = heldCount key held + delta key (.up modTap.key) := by
  rw [heldCount_perm key h, heldCount_hold, delta_down, delta_up]
  split <;> omega

theorem modLevel_perm {held held' : List ModTap} (key : Key) (h : held.Perm held') :
    modLevel key held = modLevel key held' := by
  rw [modLevel, modLevel, h.any_eq]

theorem heldCount_eq_zero_iff {key : Key} {held : List ModTap} :
    heldCount key held = 0 ↔ (held.any fun modTap => modTap.key == key) = false := by
  simp [heldCount, List.countP_eq_zero]

/-- Nothing is held if no mod-tap is. -/
theorem eq_nil_of_heldCount {held : List ModTap}
    (h : ∀ modTap ∈ held, heldCount modTap.key held = 0) : held = [] := by
  cases held with
  | nil => rfl
  | cons first rest =>
    have := h first (by simp)
    have hpos : 0 < (first :: rest).countP fun modTap => modTap.key == first.key :=
      List.countP_pos_iff.mpr ⟨first, by simp, by simp⟩
    simp only [heldCount] at this
    omega

/-- The host is told of a hold when it raises the level of its modifier. -/
theorem modLevel_hold (key : Key) (held : List ModTap) (modTap : ModTap) :
    modLevel key (held ++ [modTap]) = modLevel key held +
      level key (StageOutput.hold modTap (!anyHolds held modTap.modifier)).strokes := by
  simp only [modLevel, StageOutput.strokes, List.any_append, List.any_cons, List.any_nil,
    Bool.or_false]
  by_cases hkey : modTap.modifier.key = key
  · subst hkey
    have hany : (held.any fun other => other.modifier.key == modTap.modifier.key) =
        anyHolds held modTap.modifier := by
      refine congrArg held.any (funext fun other => ?_)
      rw [Bool.eq_iff_iff, beq_iff_eq, beq_iff_eq, Modifier.key_inj]
    rw [hany]
    cases anyHolds held modTap.modifier <;> simp
  · have hne : (modTap.modifier.key == key) = false := by simpa using hkey
    rw [hne, Bool.or_false, level_eq_zero]
    · omega
    · intro stroke hmem
      split at hmem
      · rw [List.mem_singleton.mp hmem]
        exact hkey
      · cases hmem

theorem length_strokes_hold (modTap : ModTap) (first : Bool) :
    (StageOutput.hold modTap first).strokes.length ≤ 1 := by
  cases first <;> simp [StageOutput.strokes]

theorem length_strokes_lift (modTap : ModTap) (last : Bool) :
    (StageOutput.lift modTap last).strokes.length ≤ 1 := by
  cases last <;> simp [StageOutput.strokes]

/-- The host is told of a lift when it lowers the level of its modifier. -/
theorem modLevel_lift {held rest : List ModTap} {modTap : ModTap} (key : Key)
    (h : held.Perm (rest ++ [modTap])) :
    modLevel key rest = modLevel key held +
      level key (StageOutput.lift modTap (!anyHolds rest modTap.modifier)).strokes := by
  rw [modLevel_perm key h, modLevel_hold]
  simp only [StageOutput.strokes]
  cases anyHolds rest modTap.modifier with
  | true => simp
  | false => simp [delta_down, delta_up]; split <;> omega

end ModTap

/-! ## Accounts -/

namespace Settlement

variable {term : Nat} {ordered : Prop} {held held' : List ModTap} {key : Key}
  {events left : List KeyEvent} {outputs : List StageOutput} {modTap : ModTap}

/-- **The account of a mod-tap**: its level is what is held of it and what is
left to be settled. -/
theorem modTap_account (h : Settlement term ordered held events outputs held' left)
    (hkey : ModTap.ofKey? key = some modTap) (genuine : ModTap.Genuine held)
    (hs : Sound key (ModTap.heldCount key held) (events.map KeyEvent.stroke)) :
    Sound key (ModTap.heldCount key held') (left.map KeyEvent.stroke) ∧
      ModTap.heldCount key held + level key (events.map KeyEvent.stroke) =
        ModTap.heldCount key held' + level key (left.map KeyEvent.stroke) := by
  induction h with
  | stop => exact ⟨hs, rfl⟩
  | @pass held event rest outputs held' left hordinary _ ih =>
    have hne : event.stroke.key ≠ key := by
      rintro rfl
      simp [KeyEvent.stroke, hordinary] at hkey
    rw [List.map_cons, sound_cons_of_ne hne] at hs
    rw [List.map_cons, level_cons_of_ne hne]
    exact ih genuine hs
  | @lift held event rest outputs held' left other hother hup hheld _ ih =>
    have hown := ModTap.key_of_ofKey? hother
    -- what comes up was held
    have hcount := ModTap.heldCount_lift key (ModTap.perm_lift hother genuine hheld)
    rw [List.map_cons, KeyEvent.stroke_of_release hup, ← hown] at hs ⊢
    rw [sound_cons, ← hcount] at hs
    rw [level_cons, ← Int.add_assoc, ← hcount]
    exact ih (genuine.lift _) hs.2
  | @stray held event rest outputs held' left other hother hup hheld _ ih =>
    rw [List.map_cons, KeyEvent.stroke_of_release hup] at hs ⊢
    -- a mod-tap that is not held cannot come up
    have hne : (Stroke.up event.key).key ≠ key := by
      rintro rfl
      rw [ModTap.key_of_ofKey? hother] at hheld
      rw [up_key, ModTap.heldCount_eq_zero_iff.mpr hheld, sound_cons, delta_up_self] at hs
      have := hs.2.head
      omega
    rw [level_cons_of_ne hne]
    exact ih genuine ((sound_cons_of_ne hne).mp hs)
  | @hold held press rest outputs held' left other hother hdown _ _ ih =>
    have hown := ModTap.key_of_ofKey? hother
    -- what went down is held
    have hcount := ModTap.heldCount_hold key held other
    rw [List.map_cons, KeyEvent.stroke_of_press hdown, ← hown] at hs ⊢
    rw [sound_cons, ← hcount] at hs
    rw [level_cons, ← Int.add_assoc, ← hcount]
    exact ih (genuine.hold hother) hs.2
  | @tap held press front release back outputs held' left other hother hdown hup hfirst _ _ ih =>
    rw [List.map_cons, List.map_append, List.map_cons, KeyEvent.stroke_of_press hdown, hup]
      at hs ⊢
    have hrest := hs.drop_pair hfirst
    rw [level_drop_pair, ← List.map_append]
    exact ih genuine (by rwa [List.map_append])

/-- A mod-tap is not an ordinary key. -/
theorem ne_of_ofKey? {own : Key} (hkey : ModTap.ofKey? key = none)
    (hown : ModTap.ofKey? own = some modTap) : own ≠ key := by
  rintro rfl
  simp [hkey] at hown

/-- What the host is told of a hold or of a lift is sound. -/
theorem sound_told {output : StageOutput} {strokes : List Stroke} {u : Int} (hu : 0 ≤ u)
    (hlength : output.strokes.length ≤ 1)
    (hmod : ModTap.modLevel key held' = ModTap.modLevel key held + level key output.strokes)
    (hs : Sound key (u + ModTap.modLevel key held') strokes) :
    Sound key (u + ModTap.modLevel key held) (output.strokes ++ strokes) := by
  have := ModTap.modLevel_nonneg key held
  have := ModTap.modLevel_nonneg key held'
  rw [hmod, ← Int.add_assoc] at hs
  exact sound_append.mpr ⟨sound_of_length_le_one hlength (by omega) (by omega), hs⟩

/-- **The account of an ordinary key**: what leaves the stage is sound, and its
level is what was settled and what is held. -/
theorem ordinary_account (h : Settlement term ordered held events outputs held' left)
    (hkey : ModTap.ofKey? key = none) (genuine : ModTap.Genuine held) {u : Int}
    (hs : Sound key u (events.map KeyEvent.stroke)) :
    Sound key (u + ModTap.modLevel key held) (outputs.flatMap StageOutput.strokes) ∧
      level key (outputs.flatMap StageOutput.strokes) + ModTap.modLevel key held +
          level key (left.map KeyEvent.stroke) =
        level key (events.map KeyEvent.stroke) + ModTap.modLevel key held' := by
  induction h generalizing u with
  | stop held events =>
    have := ModTap.modLevel_nonneg key held
    have := hs.head
    refine ⟨keeps_nil.mpr (by omega), ?_⟩
    rw [List.flatMap_nil, level_nil]
    omega
  | @pass held event rest outputs held' left hordinary _ ih =>
    have := ModTap.modLevel_nonneg key held
    have := hs.head
    rw [List.map_cons, sound_cons] at hs
    obtain ⟨hsound, hlevel⟩ := ih genuine hs.2
    show Sound key _ (event.stroke :: outputs.flatMap StageOutput.strokes) ∧
      level key (event.stroke :: outputs.flatMap StageOutput.strokes) + _ + _ = _
    rw [sound_cons, List.map_cons, level_cons, level_cons, Int.add_right_comm]
    exact ⟨⟨by omega, hsound⟩, by omega⟩
  | @lift held event rest outputs held' left other hother hup hheld _ ih =>
    have hmod := ModTap.modLevel_lift key (ModTap.perm_lift hother genuine hheld)
    have hne : event.stroke.key ≠ key := ne_of_ofKey? hkey hother
    rw [List.map_cons, sound_cons_of_ne hne] at hs
    obtain ⟨hsound, hlevel⟩ := ih (genuine.lift _) hs
    rw [List.flatMap_cons, List.map_cons, level_append, level_cons_of_ne hne]
    exact ⟨sound_told hs.head (ModTap.length_strokes_lift ..) hmod hsound, by omega⟩
  | @stray held event rest outputs held' left other hother hup hheld _ ih =>
    have hne : event.stroke.key ≠ key := ne_of_ofKey? hkey hother
    rw [List.map_cons, sound_cons_of_ne hne] at hs
    rw [List.map_cons, level_cons_of_ne hne]
    exact ih genuine hs
  | @hold held press rest outputs held' left other hother hdown _ _ ih =>
    have hmod := ModTap.modLevel_hold key held other
    have hne : press.stroke.key ≠ key := ne_of_ofKey? hkey hother
    rw [List.map_cons, sound_cons_of_ne hne] at hs
    obtain ⟨hsound, hlevel⟩ := ih (genuine.hold hother) hs
    rw [List.flatMap_cons, List.map_cons, level_append, level_cons_of_ne hne]
    exact ⟨sound_told hs.head (ModTap.length_strokes_hold ..) hmod hsound, by omega⟩
  | @tap held press front release back outputs held' left other hother hdown hup hfirst _ _ ih =>
    rw [List.map_cons, List.map_append, List.map_cons, KeyEvent.stroke_of_press hdown, hup]
      at hs ⊢
    have hrest := hs.drop_pair hfirst
    rw [level_drop_pair, ← List.map_append]
    obtain ⟨hsound, hlevel⟩ := ih genuine (by rwa [List.map_append])
    -- a tap goes down and comes up on the spot
    show Sound key _ (down other.tap :: up other.tap :: outputs.flatMap StageOutput.strokes) ∧
      level key (down other.tap :: ([] ++ up other.tap :: outputs.flatMap StageOutput.strokes))
        + _ + _ = _
    rw [sound_tap, level_drop_pair]
    exact ⟨hsound, hlevel⟩

end Settlement

end Keymap
