import Keymap.Proofs.ModTap.Backlog

/-!
# A mod-tap alone

One mod-tap goes down while none is pending, ordinary keys follow, and it comes
up. The stage settles it at some event in between, or at its release, and what
it puts out does not depend on where.

- `ModTapStage.Free`: nothing is pending.
- `ModTapStage.behind`, `ModTapStage.under`: the stage while events wait behind the
  mod-tap, and while it is held.
- `HeldOver`: the mod-tap is down for its term, or a key is pressed and released
  behind it.
- `take_waits`, `take_holds`, `take_release_taps`, `take_release_holds`: what one
  event does to it.
- `takeAll_of_not_heldOver`, `takeAll_of_heldOver`: **what the stage puts out.**
-/

namespace Keymap

/-- A mod-tap that went down at `start` is held over some events and its release:
one of them is a term or more after it, or one of their keys is pressed and
released. -/
def HeldOver (term start : Nat) (events : List KeyEvent) (release : KeyEvent) : Prop :=
  (∃ event ∈ events ++ [release], term ≤ event.time - start) ∨
    ¬Stroke.Unnested (events.map KeyEvent.stroke)

instance (term start : Nat) (events : List KeyEvent) (release : KeyEvent) :
    Decidable (HeldOver term start events release) :=
  inferInstanceAs (Decidable ((∃ event ∈ events ++ [release], _) ∨ _))

theorem KeyEvent.withMods_withMods (event : KeyEvent) (mods mods' : ModMask) :
    (event.withMods mods).withMods mods' = event.withMods (mods ∪ mods') := by
  simp [withMods, ModMask.union_assoc]

namespace ModTapStage

/-- Nothing is pending. -/
structure Free (stage : ModTapStage) : Prop where
  pending : stage.pending = none
  records : stage.timers.records = []

variable {stage : ModTapStage}

/-- An ordinary event passes a free stage. -/
theorem accept_ordinary (hfree : Free stage) {event : KeyEvent}
    (hkey : ModTap.ofKey? event.key = none) :
    stage.accept event = { stage := stage, outputs := [.pass (event.withMods stage.mods)] } := by
  simp [accept, hfree.pending, acceptFree, hkey]

theorem expired?_eq_none (hfree : Free stage) (now : Nat) : stage.expired? now = none := by
  simp [expired?, hfree.pending]

/-- Ordinary events pass a free stage. -/
theorem run_ordinary (hfree : Free stage) {events : List KeyEvent}
    (hkeys : ∀ event ∈ events, ModTap.ofKey? event.key = none) (rest : List Task) :
    stage.run (events.map .route ++ rest) =
      ((stage.run rest).1,
        (events.map fun event => .pass (event.withMods stage.mods)) ++ (stage.run rest).2) := by
  induction events with
  | nil => rfl
  | cons event later ih =>
    have hevent := hkeys event (by simp)
    rw [List.map_cons, List.cons_append,
      run_route_of_not_expired _ (expired?_eq_none hfree event.time), run_accept,
      accept_ordinary hfree hevent]
    simp only [List.map_nil, List.nil_append]
    rw [ih fun e he => hkeys e (by simp [he])]
    rfl

theorem run_ordinary_self (hfree : Free stage) {events : List KeyEvent}
    (hkeys : ∀ event ∈ events, ModTap.ofKey? event.key = none) :
    stage.run (events.map .route) =
      (stage, events.map fun event => .pass (event.withMods stage.mods)) := by
  have hrun := run_ordinary hfree hkeys []
  rwa [List.append_nil, run_nil, List.append_nil] at hrun

theorem takeAll_ordinary (hfree : Free stage) {events : List KeyEvent}
    (hkeys : ∀ event ∈ events, ModTap.ofKey? event.key = none) :
    stage.takeAll (events.map .event) =
      (stage, events.map fun event => .pass (event.withMods stage.mods)) := by
  induction events with
  | nil => rfl
  | cons event later ih =>
    have hevent := @run_ordinary_self stage hfree [event] fun e he => hkeys e (by simp_all)
    rw [List.map_singleton, List.map_singleton] at hevent
    rw [List.map_cons, takeAll_cons, take, route, hevent, ih fun e he => hkeys e (by simp [he])]
    rfl

/-! ## While the mod-tap is pending -/

/-- The stage while events wait behind a mod-tap that went down. -/
def behind (stage : ModTapStage) (modTap : ModTap) (press : KeyEvent) (buffer : List KeyEvent) :
    ModTapStage :=
  { stage.start modTap press with pending := some { modTap := modTap, buffer := buffer } }

/-- The stage while the mod-tap is held. -/
def under (stage : ModTapStage) (modTap : ModTap) : ModTapStage :=
  { stage with held := stage.held ++ [modTap] }

section

variable {modTap : ModTap} {press release event : KeyEvent} {buffer events : List KeyEvent}

theorem under_free (hfree : Free stage) : Free (stage.under modTap) :=
  ⟨hfree.pending, hfree.records⟩

theorem mods_under : (stage.under modTap).mods = stage.mods ∪ modTap.mask := by
  simp [mods, under, List.foldl_append]

/-- The mod-tap's term is counted from its press. -/
theorem expired?_behind (now : Nat) :
    (stage.behind modTap press buffer).expired? now =
      if stage.timers.term ≤ now - press.time then some { modTap := modTap, buffer := buffer }
      else none := by
  simp only [expired?, behind, start, HoldTimers.isPastTerm, HoldTimers.get?_press_self,
    Option.filter]
  by_cases h : stage.timers.term ≤ now - press.time
  · simp [HoldTimers.press, h]
  · simp [HoldTimers.press, h]

theorem holding_behind (hfree : Free stage) (buffer' : List KeyEvent) :
    (stage.behind modTap press buffer).holding { modTap := modTap, buffer := buffer' } =
      stage.under modTap := by
  obtain ⟨⟨term, records⟩, pending, held⟩ := stage
  obtain ⟨rfl, rfl⟩ := hfree
  simp [holding, behind, under, start, HoldTimers.forget, HoldTimers.press]

/-- An event completes a key just when it nests one. -/
theorem isNested_iff_not_unnested {pending : PendingModTap}
    (hbuffer : Stroke.Unnested (pending.buffer.map KeyEvent.stroke)) :
    PendingModTap.isNested pending event = true ↔
      ¬Stroke.Unnested ((pending.buffer ++ [event]).map KeyEvent.stroke) := by
  rw [isNested_iff, List.map_append, Stroke.unnested_append]
  constructor
  · rintro ⟨hup, hdown⟩ ⟨-, -, h⟩
    exact h event.key hdown (by simp [KeyEvent.stroke_of_release hup])
  · intro h
    refine Classical.byContradiction fun hno => h ⟨hbuffer, by simp [Stroke.Unnested], ?_⟩
    intro key hdown hmem
    have hup : event.stroke = .up key := (List.mem_singleton.mp hmem).symm
    obtain ⟨hrelease, rfl⟩ := stroke_eq_up_iff.mp hup
    exact hno ⟨isRelease_iff.mp hrelease, hdown⟩

/-- An event behind the mod-tap waits, unless it completes a key. -/
theorem accept_behind_of_unnested (hown : event.key ≠ modTap.key)
    (hunnested : Stroke.Unnested ((buffer ++ [event]).map KeyEvent.stroke)) :
    (stage.behind modTap press buffer).accept event =
      { stage := stage.behind modTap press (buffer ++ [event]) } := by
  have hbuffer : Stroke.Unnested (buffer.map KeyEvent.stroke) :=
    hunnested.sublist (((List.sublist_append_left _ _)).map _)
  have hnested := @isNested_iff_not_unnested event { modTap := modTap, buffer := buffer } hbuffer
  have hwaits : PendingModTap.isNested { modTap := modTap, buffer := buffer } event = false :=
    Bool.eq_false_iff.mpr fun h => hnested.mp h hunnested
  simp [accept, behind, acceptBehind, hown, hwaits]

/-- A key that is completed behind the mod-tap settles it. -/
theorem accept_behind_of_nested (hfree : Free stage) (hown : event.key ≠ modTap.key)
    (hbuffer : Stroke.Unnested (buffer.map KeyEvent.stroke))
    (hnested : ¬Stroke.Unnested ((buffer ++ [event]).map KeyEvent.stroke)) :
    (stage.behind modTap press buffer).accept event =
      { stage := stage.under modTap
        outputs := [.hold modTap (!stage.holdsModifier modTap.modifier)]
        again := buffer ++ [event] } := by
  have hcompletes :=
    (@isNested_iff_not_unnested event { modTap := modTap, buffer := buffer } hbuffer).mpr hnested
  have hholding := @holding_behind stage modTap press buffer hfree (buffer ++ [event])
  have haccept : (stage.behind modTap press buffer).accept event =
      (stage.behind modTap press buffer).settleHold
        { modTap := modTap, buffer := buffer ++ [event] } := by
    simp [accept, behind, acceptBehind, hown, hcompletes]
  rw [haccept, ← hholding]
  rfl

/-- The release of the mod-tap settles it as a tap. -/
theorem accept_behind_release (hfree : Free stage) (hup : release.stroke = .up modTap.key) :
    (stage.behind modTap press buffer).accept release =
      { stage := stage
        outputs := [.tap modTap
          ((KeyEvent.press modTap.tap press.mods press.time).withMods stage.mods)
          ((KeyEvent.release modTap.tap press.mods release.time).withMods stage.mods)]
        again := buffer } := by
  obtain ⟨hrelease, hkey⟩ := stroke_eq_up_iff.mp hup
  have haccept : (stage.behind modTap press buffer).accept release =
      (stage.behind modTap press buffer).settleTap { modTap := modTap, buffer := buffer }
        release := by
    simp [accept, behind, acceptBehind, hrelease, hkey]
  have hstage : { stage.behind modTap press buffer with
      timers := (stage.behind modTap press buffer).timers.forget modTap.key
      pending := none } = stage := by
    obtain ⟨⟨term, records⟩, pending, held⟩ := stage
    obtain ⟨rfl, rfl⟩ := hfree
    simp [behind, start, HoldTimers.forget, HoldTimers.press]
  rw [haccept, @settleTap_of_record _ { modTap := modTap, buffer := buffer } press release hkey
    (HoldTimers.get?_press_self _ _ _), hstage]
  rfl

/-- The release of the mod-tap that is held lifts it. -/
theorem accept_under_release (hfree : Free stage) (hkey : ModTap.ofKey? release.key = some modTap)
    (hup : release.action = .release)
    (hheld : (stage.held.any fun other => other.key == modTap.key) = false) :
    (stage.under modTap).accept release =
      { stage := stage
        outputs := [.lift modTap (!stage.holdsModifier modTap.modifier)] } := by
  have hpress : ¬release.isPress = true := by simp [KeyEvent.isPress, hup]
  have herase : (stage.held ++ [modTap]).eraseP (fun other => other.key == modTap.key) =
      stage.held := by
    rw [List.eraseP_append_right]
    · simp
    · intro other hmem hother
      exact List.any_eq_false.mp hheld other hmem hother
  obtain ⟨timers, pending, held⟩ := stage
  obtain ⟨rfl, -⟩ := hfree
  simp [accept, under, acceptFree, hkey, hpress, lift, herase, holdsModifier]

/-! ## One event behind the mod-tap -/

/-- An ordinary key is not the mod-tap's. -/
theorem ne_of_ordinary {own : Key} (hown : ModTap.ofKey? own = some modTap)
    (hkey : ModTap.ofKey? event.key = none) : event.key ≠ modTap.key := by
  rw [ModTap.key_of_ofKey? hown]
  rintro rfl
  simp [hkey] at hown

/-- What is told of a hold, and what waited passes with the modifier. -/
def heldOutputs (stage : ModTapStage) (modTap : ModTap) (events : List KeyEvent) :
    List StageOutput :=
  .hold modTap (!stage.holdsModifier modTap.modifier) ::
    events.map fun event => .pass (event.withMods (stage.under modTap).mods)

/-- An event that comes in time and completes nothing waits. -/
theorem take_waits (hown : ModTap.ofKey? press.key = some modTap)
    (hkey : ModTap.ofKey? event.key = none)
    (hterm : ¬stage.timers.term ≤ event.time - press.time)
    (hunnested : Stroke.Unnested ((buffer ++ [event]).map KeyEvent.stroke)) :
    (stage.behind modTap press buffer).take (.event event) =
      (stage.behind modTap press (buffer ++ [event]), []) := by
  have hexpired : (stage.behind modTap press buffer).expired? event.time = none := by
    rw [expired?_behind, if_neg hterm]
  rw [take, route, run_route_of_not_expired _ hexpired, run_accept,
    accept_behind_of_unnested (ne_of_ordinary hown hkey) hunnested]
  simp only [List.map_nil, List.nil_append, run_nil]

/-- An event that comes past the term, or completes a key, settles the mod-tap. -/
theorem take_holds (hfree : Free stage) (hown : ModTap.ofKey? press.key = some modTap)
    (hbuffer : ∀ event ∈ buffer, ModTap.ofKey? event.key = none)
    (hkey : ModTap.ofKey? event.key = none)
    (hunnested : Stroke.Unnested (buffer.map KeyEvent.stroke))
    (hover : stage.timers.term ≤ event.time - press.time ∨
      ¬Stroke.Unnested ((buffer ++ [event]).map KeyEvent.stroke)) :
    (stage.behind modTap press buffer).take (.event event) =
      (stage.under modTap, stage.heldOutputs modTap (buffer ++ [event])) := by
  have hunder := @under_free stage modTap hfree
  rw [take, route]
  by_cases hterm : stage.timers.term ≤ event.time - press.time
  · -- the buffer is routed, and the event is let in after it
    have hexpired : (stage.behind modTap press buffer).expired? event.time =
        some { modTap := modTap, buffer := buffer } := by
      rw [expired?_behind, if_pos hterm]
    rw [run_route_of_expired _ hexpired, holding_behind hfree, run_ordinary hunder hbuffer,
      run_accept, accept_ordinary hunder hkey]
    simp only [List.map_nil, List.nil_append, run_nil, heldOutputs, List.map_append]
    rfl
  · -- the event is put behind the buffer, and both are routed
    have hexpired : (stage.behind modTap press buffer).expired? event.time = none := by
      rw [expired?_behind, if_neg hterm]
    have hboth : ∀ e ∈ buffer ++ [event], ModTap.ofKey? e.key = none :=
      List.forall_mem_append.mpr ⟨hbuffer, List.forall_mem_singleton.mpr hkey⟩
    rw [run_route_of_not_expired _ hexpired, run_accept,
      accept_behind_of_nested hfree (ne_of_ordinary hown hkey) hunnested
        (hover.resolve_left hterm)]
    simp only [List.append_nil, run_ordinary_self hunder hboth]
    rfl

/-- The release of the mod-tap that comes in time makes it a tap. -/
theorem take_release_taps (hfree : Free stage) (hup : release.stroke = .up modTap.key)
    (hbuffer : ∀ event ∈ buffer, ModTap.ofKey? event.key = none)
    (hterm : ¬stage.timers.term ≤ release.time - press.time) :
    (stage.behind modTap press buffer).take (.event release) =
      (stage, .tap modTap
          ((KeyEvent.press modTap.tap press.mods press.time).withMods stage.mods)
          ((KeyEvent.release modTap.tap press.mods release.time).withMods stage.mods) ::
        buffer.map fun event => .pass (event.withMods stage.mods)) := by
  have hexpired : (stage.behind modTap press buffer).expired? release.time = none := by
    rw [expired?_behind, if_neg hterm]
  rw [take, route, run_route_of_not_expired _ hexpired, run_accept,
    accept_behind_release hfree hup]
  simp only [List.append_nil, run_ordinary_self hfree hbuffer, List.singleton_append]

/-- The release of the mod-tap that comes past the term settles it and lifts it. -/
theorem take_release_holds (hfree : Free stage)
    (hown : ModTap.ofKey? press.key = some modTap) (hup : release.stroke = .up press.key)
    (hheld : (stage.held.any fun other => other.key == modTap.key) = false)
    (hbuffer : ∀ event ∈ buffer, ModTap.ofKey? event.key = none)
    (hterm : stage.timers.term ≤ release.time - press.time) :
    (stage.behind modTap press buffer).take (.event release) =
      (stage, stage.heldOutputs modTap buffer ++
        [.lift modTap (!stage.holdsModifier modTap.modifier)]) := by
  obtain ⟨hrelease, hkey⟩ := stroke_eq_up_iff.mp hup
  have haccept := accept_under_release hfree (hkey ▸ hown) (isRelease_iff.mp hrelease) hheld
  have hexpired : (stage.behind modTap press buffer).expired? release.time =
      some { modTap := modTap, buffer := buffer } := by
    rw [expired?_behind, if_pos hterm]
  rw [take, route, run_route_of_expired _ hexpired, holding_behind hfree,
    run_ordinary (under_free hfree) hbuffer, run_accept, haccept]
  simp only [List.map_nil, run_nil, List.append_nil, heldOutputs]
  rfl

/-! ## What it puts out -/

/-- **A mod-tap that is not held over is tapped**, and what waited behind it follows. -/
theorem takeAll_of_not_heldOver (hfree : Free stage)
    (hown : ModTap.ofKey? press.key = some modTap) (hup : release.stroke = .up press.key)
    (hbuffer : ∀ event ∈ buffer, ModTap.ofKey? event.key = none)
    (hevents : ∀ event ∈ events, ModTap.ofKey? event.key = none)
    (hintime : ∀ event ∈ events ++ [release], ¬stage.timers.term ≤ event.time - press.time)
    (hunnested : Stroke.Unnested ((buffer ++ events).map KeyEvent.stroke)) :
    (stage.behind modTap press buffer).takeAll ((events ++ [release]).map .event) =
      (stage, .tap modTap
          ((KeyEvent.press modTap.tap press.mods press.time).withMods stage.mods)
          ((KeyEvent.release modTap.tap press.mods release.time).withMods stage.mods) ::
        (buffer ++ events).map fun event => .pass (event.withMods stage.mods)) := by
  induction events generalizing buffer with
  | nil =>
    have hkey := ModTap.key_of_ofKey? hown
    rw [List.nil_append, List.map_singleton, takeAll_cons, takeAll_nil,
      take_release_taps hfree (hkey ▸ hup) hbuffer (hintime release (by simp))]
    simp only [List.append_nil]
  | cons event rest ih =>
    obtain ⟨hkey, hrest⟩ := List.forall_mem_cons.mp hevents
    obtain ⟨hterm, hlater⟩ := List.forall_mem_cons.mp hintime
    have hlonger : ∀ e ∈ buffer ++ [event], ModTap.ofKey? e.key = none :=
      List.forall_mem_append.mpr ⟨hbuffer, List.forall_mem_singleton.mpr hkey⟩
    rw [List.append_cons buffer event rest] at hunnested ⊢
    have hstep : Stroke.Unnested ((buffer ++ [event]).map KeyEvent.stroke) :=
      hunnested.sublist ((List.sublist_append_left _ _).map _)
    rw [List.cons_append, List.map_cons, takeAll_cons, take_waits hown hkey hterm hstep,
      ih hlonger hrest hlater hunnested, List.nil_append]

/-- Once the mod-tap is held, events pass with its modifier until it is lifted. -/
theorem takeAll_under (hfree : Free stage) (hown : ModTap.ofKey? press.key = some modTap)
    (hup : release.stroke = .up press.key)
    (hheld : (stage.held.any fun other => other.key == modTap.key) = false)
    (hevents : ∀ event ∈ events, ModTap.ofKey? event.key = none) :
    (stage.under modTap).takeAll ((events ++ [release]).map .event) =
      (stage, (events.map fun event => .pass (event.withMods (stage.under modTap).mods)) ++
        [.lift modTap (!stage.holdsModifier modTap.modifier)]) := by
  obtain ⟨hrelease, hkey⟩ := stroke_eq_up_iff.mp hup
  have haccept := accept_under_release hfree (hkey ▸ hown) (isRelease_iff.mp hrelease) hheld
  have hexpired := expired?_eq_none (@under_free stage modTap hfree) release.time
  rw [List.map_append, takeAll_append, takeAll_ordinary (under_free hfree) hevents,
    List.map_singleton, takeAll_cons, takeAll_nil, take, route,
    run_route_of_not_expired _ hexpired, run_accept, haccept]
  simp

/-- **A mod-tap that is held over is held**, and what waited behind it follows
with its modifier. -/
theorem takeAll_of_heldOver (hfree : Free stage)
    (hown : ModTap.ofKey? press.key = some modTap) (hup : release.stroke = .up press.key)
    (hheld : (stage.held.any fun other => other.key == modTap.key) = false)
    (hbuffer : ∀ event ∈ buffer, ModTap.ofKey? event.key = none)
    (hevents : ∀ event ∈ events, ModTap.ofKey? event.key = none)
    (hunnested : Stroke.Unnested (buffer.map KeyEvent.stroke))
    (hover : (∃ event ∈ events ++ [release], stage.timers.term ≤ event.time - press.time) ∨
      ¬Stroke.Unnested ((buffer ++ events).map KeyEvent.stroke)) :
    (stage.behind modTap press buffer).takeAll ((events ++ [release]).map .event) =
      (stage, stage.heldOutputs modTap (buffer ++ events) ++
        [.lift modTap (!stage.holdsModifier modTap.modifier)]) := by
  induction events generalizing buffer with
  | nil =>
    -- nothing is nested behind the mod-tap, so its own release is late
    have hterm : stage.timers.term ≤ release.time - press.time := by
      rcases hover with ⟨event, hmem, hterm⟩ | hnested
      · rwa [← List.mem_singleton.mp hmem]
      · rw [List.append_nil] at hnested
        exact absurd hunnested hnested
    rw [List.nil_append, List.map_singleton, takeAll_cons, takeAll_nil,
      take_release_holds hfree hown hup hheld hbuffer hterm]
    simp only [List.append_nil]
  | cons event rest ih =>
    obtain ⟨hkey, hrest⟩ := List.forall_mem_cons.mp hevents
    have hlonger : ∀ e ∈ buffer ++ [event], ModTap.ofKey? e.key = none :=
      List.forall_mem_append.mpr ⟨hbuffer, List.forall_mem_singleton.mpr hkey⟩
    rw [List.append_cons buffer event rest] at hover ⊢
    rw [List.cons_append, List.map_cons, takeAll_cons]
    by_cases hnow : stage.timers.term ≤ event.time - press.time ∨
        ¬Stroke.Unnested ((buffer ++ [event]).map KeyEvent.stroke)
    · -- the mod-tap settles at this event
      rw [take_holds hfree hown hbuffer hkey hunnested hnow,
        takeAll_under hfree hown hup hheld hrest]
      simp [heldOutputs]
    · -- the event waits, and what settles the mod-tap is still to come
      obtain ⟨hterm, hstep⟩ := not_or.mp hnow
      have hstep := Decidable.not_not.mp hstep
      rw [take_waits hown hkey hterm hstep, ih hlonger hrest hstep ?_, List.nil_append]
      rcases hover with ⟨e, hmem, hlate⟩ | hnested
      · rcases List.mem_cons.mp hmem with rfl | hmem
        · exact absurd hlate hterm
        · exact .inl ⟨e, hmem, hlate⟩
      · exact .inr hnested

end

end ModTapStage

end Keymap
