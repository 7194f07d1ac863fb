import Keymap.Proofs.Script.Releases
import Keymap.Proofs.ToldModifiers

/-!
# The modifiers that scripts tell

The events of a script are to tell the modifiers that are down, as those of a keyboard
do. The modifiers in front of the keys of a stroke are told with care: each is told
with the ones before it, and all of them with the keys. But the keys can be modifier
keys as well, and of what these hold the events of the stroke know nothing.

- `tellsFrom_pressModifiers`, `tellsFrom_keys`, `tellsFrom_releaseModifiers`: when the
  parts of a stroke tell the modifiers that are down.
- `Item.TellsMods`: what a stroke must not do.
- `parse_toldMods_iff`: **a script tells the modifiers that are down exactly if none of
  its strokes does that**.
- `parse_shiftInChord`: a stroke that does.
-/

namespace Keymap

open Stroke

/-! ## Modifiers and the strokes of a stream -/

theorem Modifier.ownMask_key (m : Modifier) : m.key.ownMask = .single m := by
  simp [Key.ownMask]

theorem Key.ownMask_of_none {key : Key} (h : key.modifier? = none) : key.ownMask = ∅ := by
  simp [ownMask, h]

namespace ModMask

theorem foldl_after_downs (held : ModMask) (keys : List Key) (m : Modifier) :
    ((keys.map down).foldl after held).holds m = (held.holds m || decide (m.key ∈ keys)) := by
  induction keys generalizing held with
  | nil => simp
  | cons key rest ih =>
    rw [List.map_cons, List.foldl_cons, ih]
    simp [after, down, Bool.or_assoc, eq_comm]

theorem foldl_after_ups (held : ModMask) (keys : List Key) (m : Modifier) :
    ((keys.map up).foldl after held).holds m = (held.holds m && !decide (m.key ∈ keys)) := by
  induction keys generalizing held with
  | nil => simp
  | cons key rest ih =>
    rw [List.map_cons, List.foldl_cons, ih]
    simp [after, up, Bool.and_assoc, eq_comm]

theorem foldl_after (front back : List Stroke) :
    back.foldl after (modsDown front) = modsDown (front ++ back) := by
  induction back generalizing front with
  | nil => simp
  | cons stroke rest ih =>
    rw [List.foldl_cons, ← modsDown_concat, ih, List.append_assoc, List.singleton_append]

/-- Behind a stream that leaves every key up no modifier is down. -/
theorem foldl_after_of_complete {strokes : List Stroke} (h : Complete strokes) :
    strokes.foldl after ∅ = ∅ := by
  have hempty : (∅ : ModMask) = modsDown [] := ext_holds fun m => by simp [modsDown, isDown]
  rw [hempty, foldl_after]
  refine ext_holds fun m => ?_
  have hup : isDown m.key false strokes = false := by
    have hbefore : ¬(false = true) := Bool.false_ne_true
    refine isDown_eq_false (h.sound_zero m.key) (absurd · hbefore) ?_
    rw [h.level_eq_zero]
    rfl
  simpa [modsDown, isDown] using hup

end ModMask

/-- No event tells the modifier of its own key. -/
theorem TellsFrom.not_own {held : ModMask} {es : List KeyEvent} (h : TellsFrom held es) :
    ∀ e ∈ es, ∀ m : Modifier, e.key = m.key → e.mods.holds m = false := by
  induction es generalizing held with
  | nil => simp
  | cons e rest ih =>
    refine List.forall_mem_cons.mpr ⟨fun m hkey => ?_, ih h.2⟩
    rw [h.1]
    simp [hkey]

namespace Script

/-! ## The parts of a stroke -/

/-- Modifiers that go down one after another are told if none of them was down and
none stands there twice. -/
theorem tellsFrom_pressModifiers {time : Nat} {held : ModMask} {mods : List Modifier} :
    TellsFrom held (pressModifiers time held mods) ↔
      mods.Nodup ∧ ∀ m ∈ mods, held.holds m = false := by
  induction mods generalizing held with
  | nil => simp [pressModifiers, TellsFrom]
  | cons m rest ih =>
    have hown : held = held \ m.key.ownMask ↔ held.holds m = false := by
      constructor
      · intro h
        rw [h]
        simp
      · intro h
        refine ModMask.ext_holds fun m' => ?_
        by_cases hm : m = m'
        · simp [← hm, h]
        · simp [mt Modifier.key_inj.mp hm]
    have hafter : held.after (KeyEvent.press m.key held time).stroke = held ∪ .single m := by
      rw [← m.ownMask_key]
      rfl
    rw [pressModifiers, TellsFrom, hafter, ih]
    show held = held \ m.key.ownMask ∧ _ ↔ _
    rw [hown, List.nodup_cons, List.forall_mem_cons]
    constructor
    · rintro ⟨hm, hrest, hheld⟩
      refine ⟨⟨fun hmem => ?_, hrest⟩, hm, fun m' hm' => ?_⟩
      · simpa using hheld m hmem
      · have hunion := hheld m' hm'
        rw [ModMask.holds_union, Bool.or_eq_false_iff] at hunion
        exact hunion.1
    · rintro ⟨⟨hmem, hrest⟩, hm, hheld⟩
      refine ⟨hm, hrest, fun m' hm' => ?_⟩
      have hne : m' ≠ m := fun heq => hmem (heq ▸ hm')
      simp [hheld m' hm', hne]

/-- Modifiers that come up one after another are told. -/
theorem tellsFrom_releaseModifiers (time : Nat) (held : ModMask) (mods : List Modifier) :
    TellsFrom held (releaseModifiers time held mods) := by
  induction mods generalizing held with
  | nil => trivial
  | cons m rest ih =>
    have hown : held \ .single m = held \ m.key.ownMask := by rw [m.ownMask_key]
    have hafter : held.after (KeyEvent.release m.key (held \ .single m) time).stroke =
        held \ .single m := hown.symm
    rw [releaseModifiers, TellsFrom, hafter]
    exact ⟨hown, ih _⟩

/-- What the keys of a stroke must be so that the modifiers in front of them are all
that is down: a modifier key is not among these modifiers, and no other key is beside
it. -/
def Lone (held : ModMask) (keys : List Key) : Prop :=
  ∀ key ∈ keys, ∀ m ∈ key.modifier?, held.holds m = false ∧ ∀ other ∈ keys, other = key

/-- While only such keys go down and come up, the modifiers in front of them are down
beside each of them. -/
theorem Lone.tellsFrom {mask : ModMask} {keys : List Key} (h : Lone mask keys)
    {es : List KeyEvent} (hes : ∀ e ∈ es, e.key ∈ keys ∧ e.mods = mask) {held : ModMask}
    (hheld : ∀ key ∈ keys, held \ key.ownMask = mask) : TellsFrom held es := by
  induction es generalizing held with
  | nil => trivial
  | cons e rest ih =>
    obtain ⟨⟨hkey, hmods⟩, hrest⟩ := List.forall_mem_cons.mp hes
    refine ⟨hmods.trans (hheld e.key hkey).symm, ih hrest fun key hmem => ?_⟩
    rw [← hheld key hmem]
    refine ModMask.ext_holds fun m => ?_
    cases hmod : e.key.modifier? with
    | none =>
      -- the stroke is not of a modifier key
      have hown := Key.ownMask_of_none hmod
      cases haction : e.action <;> simp [ModMask.after, KeyEvent.stroke, haction, hown]
    | some own =>
      -- there is only this key
      obtain rfl := (h e.key hkey own hmod).2 key hmem
      cases haction : e.action <;>
        by_cases hm : e.key = m.key <;> simp [ModMask.after, KeyEvent.stroke, haction, hm]

/-- While a modifier is down that is not told, only its own key goes down. -/
theorem eq_key_of_pressKeys {time : Nat} {held mask : ModMask} {keys : List Key}
    {m : Modifier} (hheld : held.holds m = true) (hmask : mask.holds m = false)
    (h : TellsFrom held (pressKeys time mask keys)) : ∀ key ∈ keys, key = m.key := by
  induction keys generalizing time held with
  | nil => simp
  | cons key rest ih =>
    obtain ⟨hfirst, hrest⟩ := h
    have hkey : key = m.key := by
      have hm : mask.holds m = (held \ key.ownMask).holds m := by
        rw [← show mask = held \ key.ownMask from hfirst]
      simpa [hheld, hmask] using hm
    refine List.forall_mem_cons.mpr ⟨hkey, ih ?_ hrest⟩
    simp [ModMask.after, KeyEvent.stroke, KeyEvent.press, hheld]

theorem mem_pressKeys {time : Nat} {mask : ModMask} {keys : List Key} {e : KeyEvent}
    (h : e ∈ pressKeys time mask keys) : e.key ∈ keys ∧ e.mods = mask := by
  induction keys generalizing time with
  | nil => exact nomatch h
  | cons key rest ih =>
    rcases List.mem_cons.mp h with rfl | hrest
    · exact ⟨List.mem_cons_self, rfl⟩
    · exact ⟨List.mem_cons_of_mem key (ih hrest).1, (ih hrest).2⟩

/-- The keys of a stroke tell the modifiers in front of them truly exactly if they are
alone. -/
theorem tellsFrom_keys {start stop : Nat} {mask : ModMask} {keys : List Key} :
    TellsFrom mask (pressKeys start mask keys ++ keys.map (KeyEvent.release · mask stop)) ↔
      Lone mask keys := by
  constructor
  · intro h
    have hmask (m : Modifier) (hm : m.key ∈ keys) : mask.holds m = false := by
      refine h.not_own (KeyEvent.release m.key mask stop) ?_ m rfl
      exact List.mem_append_right _ (List.mem_map_of_mem hm)
    obtain ⟨hpresses, hreleases⟩ := tellsFrom_append.mp h
    intro key hkey m hmod
    obtain rfl := Key.eq_key_of_modifier? hmod
    refine ⟨hmask m hkey, ?_⟩
    cases keys with
    | nil => exact nomatch hkey
    | cons first rest =>
      -- when the first key comes up all keys are down, so that no other holds a modifier
      have hfirst : first = m.key := by
        have htold := hreleases.1
        rw [strokes_pressKeys] at htold
        have hm : mask.holds m = _ := congrArg (ModMask.holds · m) htold
        rw [ModMask.holds_sdiff, ModMask.foldl_after_downs, hmask m hkey] at hm
        simpa [hkey, KeyEvent.release] using hm
      -- and it is down when the others go down
      rw [hfirst] at hpresses
      refine List.forall_mem_cons.mpr ⟨hfirst, ?_⟩
      refine eq_key_of_pressKeys ?_ (hmask m hkey) hpresses.2
      simp [ModMask.after, KeyEvent.stroke, KeyEvent.press]
  · intro h
    refine h.tellsFrom (fun e he => ?_) fun key hkey => ?_
    · rcases List.mem_append.mp he with hpress | hrelease
      · exact mem_pressKeys hpress
      · obtain ⟨key, hkey, rfl⟩ := List.mem_map.mp hrelease
        exact ⟨hkey, rfl⟩
    · refine ModMask.ext_holds fun m => ?_
      by_cases hm : key = m.key
      · have hmod : m ∈ key.modifier? := by simp [hm]
        simp [(h key hkey m hmod).1]
      · simp [hm]

/-! ## Strokes -/

/-- What must not be in a stroke: a modifier twice in front of the keys, and among the
keys a modifier key that is in front of them as well or has another key beside it. -/
def Item.TellsMods : Item → Prop
  | pause _ => True
  | layer _ => True
  | stroke mods keys _ =>
    mods.Nodup ∧ ∀ key ∈ keys, ∀ m ∈ key.modifier?, m ∉ mods ∧ ∀ other ∈ keys, other = key

/-- A stroke tells the modifiers that are down if it is of that kind, and else not. -/
theorem tellsFrom_strokeEvents {start : Nat} {mods : List Modifier} {keys : List Key}
    {hold : Nat} :
    TellsFrom ∅ (strokeEvents start mods keys hold) ↔ (Item.stroke mods keys hold).TellsMods := by
  have hpressed : (((pressModifiers start ∅ mods).map KeyEvent.stroke).foldl ModMask.after ∅) =
      maskOf mods := by
    refine ModMask.ext_holds fun m => ?_
    rw [strokes_pressModifiers, ModMask.foldl_after_downs, maskOf_eq_ofList]
    simp [List.mem_map, Modifier.key_inj]
  have hlone : Lone (maskOf mods) keys ↔
      ∀ key ∈ keys, ∀ m ∈ key.modifier?, m ∉ mods ∧ ∀ other ∈ keys, other = key := by
    simp [Lone, maskOf_eq_ofList]
  unfold strokeEvents
  rw [List.append_assoc, List.append_assoc, tellsFrom_append, tellsFrom_pressModifiers, hpressed,
    ← List.append_assoc, tellsFrom_append, tellsFrom_keys, hlone]
  constructor
  · rintro ⟨⟨hnodup, -⟩, hkeys, -⟩
    exact ⟨hnodup, hkeys⟩
  · rintro ⟨hnodup, hkeys⟩
    refine ⟨⟨hnodup, by simp⟩, hkeys, ?_⟩
    -- the keys are up again, and the modifiers in front of them still down
    have hreleased : ((pressKeys start (maskOf mods) keys ++ keys.map (KeyEvent.release ·
          (maskOf mods) (start + strokeLength keys hold))).map KeyEvent.stroke).foldl
        ModMask.after (maskOf mods) = maskOf mods := by
      refine ModMask.ext_holds fun m => ?_
      rw [List.map_append, strokes_pressKeys, strokes_releases, List.foldl_append,
        ModMask.foldl_after_ups, ModMask.foldl_after_downs]
      by_cases hkey : m.key ∈ keys
      · have hmask := (hlone.mpr hkeys m.key hkey m (by simp)).1
        simp [hkey, hmask]
      · simp [hkey]
    rw [hreleased]
    exact tellsFrom_releaseModifiers _ _ _

/-- Items tell the modifiers that are down if each of them does: behind each of them no
modifier is down. -/
theorem tellsFrom_schedule {start : Nat} {items : List Item} :
    TellsFrom ∅ (events (schedule start items)) ↔ ∀ item ∈ items, item.TellsMods := by
  induction items generalizing start with
  | nil => simp [schedule, events, TellsFrom]
  | cons item rest ih =>
    have hitem : TellsFrom ∅ (events (item.steps start)) ↔ item.TellsMods := by
      cases item with
      | pause ms => simp [Item.steps, events, TellsFrom, Item.TellsMods]
      | layer l => simp [Item.steps, events, TellsFrom, Item.TellsMods]
      | stroke mods keys hold => rw [Item.steps, events_map_event, tellsFrom_strokeEvents]
    rw [schedule, events_append, tellsFrom_append, hitem,
      ModMask.foldl_after_of_complete (complete_item start item), ih, List.forall_mem_cons]

/-! ## Scripts -/

/-- **A script tells the modifiers that are down** with every event exactly if none of
its strokes has a modifier in front of its keys twice, or among them a modifier key
that is in front of them too or has another key beside it. -/
theorem parse_toldMods_iff {text : String} {steps : List Step} (h : parse text = .ok steps) :
    ToldMods (events steps) ↔
      ∀ token ∈ tokens text, ∀ item, Item.ofToken? token = .ok item → item.TellsMods := by
  obtain ⟨items, hitems, rfl⟩ := parse_eq_ok_iff.mp h
  rw [toldMods_iff, tellsFrom_schedule]
  constructor
  · intro hall token htoken item hitem
    exact hall item ((mem_of_readItems hitems).mpr ⟨token, htoken, hitem⟩)
  · intro hall item hmem
    obtain ⟨token, htoken, hitem⟩ := (mem_of_readItems hitems).mp hmem
    exact hall token htoken item hitem

/-- Two modifiers in front of a key, and then a modifier key alone. -/
theorem parse_toldMods_shortcut :
    let es : List KeyEvent :=
      [.press .leftCtrl ∅ 0, .press .leftShift { leftCtrl := true } 0,
        .press .tab { leftCtrl := true, leftShift := true } 0,
        .release .tab { leftCtrl := true, leftShift := true } 20,
        .release .leftShift { leftCtrl := true } 20, .release .leftCtrl ∅ 20,
        .press .rightShift ∅ 40, .release .rightShift ∅ 60]
    parse "C-S-TAB RSFT" = .ok (es.map .event) ∧ ToldMods es := by
  intro es
  have hsteps : parse "C-S-TAB RSFT" = .ok (es.map .event) := by decide +kernel
  have htokens : tokens "C-S-TAB RSFT" = ["C-S-TAB".toList, "RSFT".toList] := by decide +kernel
  have hfirst : Item.ofToken? "C-S-TAB".toList =
      .ok (.stroke [.leftCtrl, .leftShift] [.tab] 20) := by decide +kernel
  have hsecond : Item.ofToken? "RSFT".toList = .ok (.stroke [] [.rightShift] 20) := by
    decide +kernel
  have htells : ∀ token ∈ tokens "C-S-TAB RSFT", ∀ item, Item.ofToken? token = .ok item →
      item.TellsMods := by
    rw [htokens]
    refine List.forall_mem_cons.mpr ⟨fun item hitem => ?_, List.forall_mem_singleton.mpr
      fun item hitem => ?_⟩
    · rw [hfirst] at hitem
      cases hitem
      simp [Item.TellsMods, Key.modifier?]
    · rw [hsecond] at hitem
      cases hitem
      simp [Item.TellsMods, Key.modifier?]
  refine ⟨hsteps, ?_⟩
  have htold := (parse_toldMods_iff hsteps).mpr htells
  rwa [events_map_event] at htold

/-- In a chord with a shift key the other key does not tell that shift is down. -/
theorem parse_shiftInChord :
    let es : List KeyEvent :=
      [.press .leftShift ∅ 0, .press .a ∅ 5, .release .leftShift ∅ 25, .release .a ∅ 25]
    parse "LEFT_SHIFT+A" = .ok (es.map .event) ∧ ¬ToldMods es :=
  ⟨by decide +kernel, by decide⟩

end Script

end Keymap
