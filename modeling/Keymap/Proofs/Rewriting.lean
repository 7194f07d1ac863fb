import Keymap.Proofs.ModTap.Alone
import Keymap.Proofs.Reachable

/-!
# A mod-tap rewrites the stream

While a mod-tap is down the pipeline buffers, replays and invents events. In the
end it does no more than to rewrite the stream: a tap is the press and the
release of the tap key, followed by what came in between; a hold adds a modifier
to what came in between.

- `Engine.feedAll`: events go in, one after another.
- `Engine.feed_ordinary`: one event that no stage keeps back goes to the typist.
- `Engine.Rests`, `Engine.Rests.feedAll_ordinary`: nothing is kept back, and events of
  ordinary keys go to the typist as they are.
- `Engine.told`: what the host is told of a hold and of a lift.
- `Engine.feedAll_of_not_heldOver`, `Engine.feedAll_of_heldOver`: a tap and a hold.
- `Engine.feedAll_modTap`: **a mod-tap equals the rewritten stream**, with the
  same requests to the host and the same engine at the end.
-/

namespace Keymap

@[simp] theorem ModMask.union_empty (x : ModMask) : x ∪ ∅ = x :=
  ext_holds fun m => by simp

@[simp] theorem KeyEvent.withMods_empty (event : KeyEvent) : event.withMods ∅ = event := by
  unfold withMods
  rw [ModMask.union_empty]

theorem ModTap.ofKey?_tap {key : Key} {modTap : ModTap} (h : ofKey? key = some modTap) :
    ofKey? modTap.tap = none := by
  cases key <;> cases h <;> rfl

namespace Engine

/-- Takes in events, in order. -/
def feedAll (engine : Engine) (events : List KeyEvent) : Engine × Response :=
  engine.callAll (events.map .event)

/-- What the host is told when a mod-tap is held or lifted: nothing if another
holds the modifier already. -/
def told (engine : Engine) (modTap : ModTap) (action : Action) : Response where
  outputs :=
    if engine.modTaps.holdsModifier modTap.modifier then []
    else [.forward modTap.modifier.key action ∅]

variable {settings : EngineSettings} {engine : Engine}

/-- Without chords, events go through the mod-tap stage and then to the typist. -/
theorem feedAll_eq (hidle : engine.chords.Idle) (events : List KeyEvent) :
    engine.feedAll events =
      let stage := engine.modTaps.takeAll (events.map .event)
      let typed := settleAll engine.typist stage.2
      ({ engine with modTaps := stage.1, typist := typed.1 }, typed.2) := by
  have hsignals : engine.chords.signalAll (events.map .event) =
      (engine.chords, events.map .event) := by
    rw [ChordDetector.signalAll_idle hidle, List.filterMap_map]
    exact congrArg _ (List.filterMap_eq_map ▸ rfl)
  -- events have times, so the typist sees only what the stage settles
  have htimed : ∀ call ∈ events.map Call.event, call.time?.isSome := by
    intro call hmem
    obtain ⟨event, -, rfl⟩ := List.mem_map.mp hmem
    rfl
  have hchords : (engine.callAll (events.map .event)).1.chords = engine.chords := by
    rw [callAll_chords, hsignals]
  have hmodTaps := callAll_modTaps engine (events.map .event)
  have htyped := callAll_typist engine (events.map .event) htimed
  rw [settled, hsignals] at htyped
  rw [hsignals] at hmodTaps
  obtain ⟨htypist, hresponse⟩ := Prod.mk.inj htyped
  simp only [feedAll, ← htypist, ← hresponse, ← hmodTaps]
  rw [← hchords]

theorem feedAll_append (engine : Engine) (front back : List KeyEvent) :
    engine.feedAll (front ++ back) =
      (((engine.feedAll front).1.feedAll back).1,
        (engine.feedAll front).2 ++ ((engine.feedAll front).1.feedAll back).2) := by
  unfold feedAll
  rw [List.map_append, callAll_append]

/-- A reachable mod-tap stage is free while nothing is pending. -/
theorem Reachable.free (h : Reachable settings engine)
    (hpending : engine.modTaps.pending = none) : ModTapStage.Free engine.modTaps := by
  obtain ⟨queue, hb⟩ := h.backlog
  exact ⟨hpending, (hb.of_free hpending).2⟩

/-- An event of an ordinary key that the detector lets through goes to the typist while no
mod-tap is pending, with the modifiers of the held ones. -/
theorem feed_ordinary {event : KeyEvent}
    (hchords : engine.chords.feed event = (engine.chords, [event]))
    (hfree : ModTapStage.Free engine.modTaps) (hkey : ModTap.ofKey? event.key = none) :
    engine.feed event =
      let typed := engine.typist.handle (event.withMods engine.modTapMods)
      ({ engine with typist := typed.1 }, typed.2) := by
  have hpass := @ModTapStage.takeAll_ordinary engine.modTaps hfree [event] fun other hmem => by
    rwa [List.mem_singleton.mp hmem]
  unfold feed
  rw [hchords]
  show engine.routeAll [event] = _
  rw [routeAll_eq, hpass]
  exact congrArg (Prod.mk _) (Response.append_empty _)

/-- No stage keeps anything back, and no mod-tap is held. -/
structure Rests (engine : Engine) : Prop where
  idle : engine.chords.Idle
  free : ModTapStage.Free engine.modTaps
  held : engine.modTaps.held = []

theorem rests_new (hcombos : settings.combos = []) : Rests (new settings) :=
  ⟨⟨hcombos, rfl, rfl⟩, ⟨rfl, rfl⟩, rfl⟩

/-- The typist is handed the events of ordinary keys as they are fed. -/
theorem Rests.feedAll_ordinary (h : Rests engine) {events : List KeyEvent}
    (hkeys : ∀ event ∈ events, ModTap.ofKey? event.key = none) :
    engine.feedAll events =
      let typed := settleAll engine.typist (events.map .pass)
      ({ engine with typist := typed.1 }, typed.2) := by
  have hmods : engine.modTaps.mods = ∅ := by
    unfold ModTapStage.mods
    rw [h.held]
    rfl
  rw [feedAll_eq h.idle, ModTapStage.takeAll_ordinary h.free hkeys, hmods]
  simp only [KeyEvent.withMods_empty]

/-- The typist types a tap as its press and its release. -/
theorem settleAll_tap (typist : Typist) (modTap : ModTap) (press release : KeyEvent)
    (rest : List StageOutput) :
    settleAll typist (.tap modTap press release :: rest) =
      settleAll typist (.pass press :: .pass release :: rest) := by
  simp only [settleAll, settle, Response.append_assoc]

theorem settle_hold (typist : Typist) (modTap : ModTap) :
    settle typist (.hold modTap (!engine.modTaps.holdsModifier modTap.modifier)) =
      (typist, engine.told modTap .press) := by
  rw [settle, told]
  cases engine.modTaps.holdsModifier modTap.modifier <;> rfl

theorem settle_lift (typist : Typist) (modTap : ModTap) :
    settle typist (.lift modTap (!engine.modTaps.holdsModifier modTap.modifier)) =
      (typist, engine.told modTap .release) := by
  rw [settle, told]
  cases engine.modTaps.holdsModifier modTap.modifier <;> rfl

/-- The press of a mod-tap makes it pending in a free stage. -/
theorem takeAll_press {stage : ModTapStage} (hfree : ModTapStage.Free stage)
    {press : KeyEvent} {modTap : ModTap} (hkey : ModTap.ofKey? press.key = some modTap)
    (hdown : press.action = .press) (rest : List KeyEvent) :
    stage.takeAll ((press :: rest).map .event) =
      (stage.behind modTap press []).takeAll (rest.map .event) := by
  have hexpired := ModTapStage.expired?_eq_none hfree press.time
  have hpress : press.isPress = true := by simp [KeyEvent.isPress, hdown]
  have haccept : stage.accept press = { stage := stage.behind modTap press [] } := by
    simp only [ModTapStage.accept, hfree.pending, ModTapStage.acceptFree, hkey, if_pos hpress]
    rfl
  rw [List.map_cons, ModTapStage.takeAll_cons, ModTapStage.take, ModTapStage.route,
    ModTapStage.run_route_of_not_expired _ hexpired, ModTapStage.run_accept, haccept]
  simp

/-- A mod-tap that is not held over is a press and a release of its tap key. -/
theorem feedAll_of_not_heldOver (hidle : engine.chords.Idle)
    (hfree : ModTapStage.Free engine.modTaps) {key : Key} {modTap : ModTap}
    (hkey : ModTap.ofKey? key = some modTap) {events : List KeyEvent}
    (hevents : ∀ event ∈ events, ModTap.ofKey? event.key = none)
    {mods mods' : ModMask} {start stop : Nat}
    (hover : ¬HeldOver engine.modTaps.timers.term start events (.release key mods' stop)) :
    engine.feedAll (.press key mods start :: (events ++ [.release key mods' stop])) =
      engine.feedAll
        (.press modTap.tap mods start :: .release modTap.tap mods stop :: events) := by
  obtain ⟨hlate, hunnested⟩ := not_or.mp hover
  have hintime : ∀ event ∈ events ++ [.release key mods' stop],
      ¬engine.modTaps.timers.term ≤ event.time - start :=
    fun event hmem hterm => hlate ⟨event, hmem, hterm⟩
  have htap := @ModTapStage.takeAll_of_not_heldOver engine.modTaps modTap
    (.press key mods start) (.release key mods' stop) [] events hfree hkey rfl (by simp) hevents
    hintime (Decidable.not_not.mp hunnested)
  -- the tap key is no mod-tap, so all of the rewritten stream passes
  have hordinary : ∀ event ∈ .press modTap.tap mods start ::
      .release modTap.tap mods stop :: events, ModTap.ofKey? event.key = none := by
    have := ModTap.ofKey?_tap hkey
    simpa [KeyEvent.press, KeyEvent.release, this] using hevents
  rw [feedAll_eq hidle, feedAll_eq hidle, takeAll_press hfree hkey rfl, htap,
    ModTapStage.takeAll_ordinary hfree hordinary]
  simp only [settleAll_tap, List.nil_append, List.map_cons]
  rfl

/-- A mod-tap that is held over adds its modifier to what came in between. -/
theorem feedAll_of_heldOver (hidle : engine.chords.Idle)
    (hfree : ModTapStage.Free engine.modTaps) {key : Key} {modTap : ModTap}
    (hkey : ModTap.ofKey? key = some modTap)
    (hheld : (engine.modTaps.held.any fun other => other.key == modTap.key) = false)
    {events : List KeyEvent} (hevents : ∀ event ∈ events, ModTap.ofKey? event.key = none)
    {mods mods' : ModMask} {start stop : Nat}
    (hover : HeldOver engine.modTaps.timers.term start events (.release key mods' stop)) :
    engine.feedAll (.press key mods start :: (events ++ [.release key mods' stop])) =
      let rewritten := engine.feedAll (events.map (·.withMods modTap.mask))
      (rewritten.1, engine.told modTap .press ++ rewritten.2 ++ engine.told modTap .release) := by
  have hhold := @ModTapStage.takeAll_of_heldOver engine.modTaps modTap
    (.press key mods start) (.release key mods' stop) [] events hfree hkey rfl hheld (by simp)
    hevents (by simp) hover
  have hordinary : ∀ event ∈ events.map (·.withMods modTap.mask),
      ModTap.ofKey? event.key = none := by
    intro event hmem
    obtain ⟨before, hbefore, rfl⟩ := List.mem_map.mp hmem
    exact hevents before hbefore
  -- the events pass with the modifier of the hold and those of other holds
  have hwith (event : KeyEvent) : event.withMods (engine.modTaps.under modTap).mods =
      (event.withMods modTap.mask).withMods engine.modTaps.mods := by
    rw [ModTapStage.mods_under, KeyEvent.withMods_withMods, ModMask.union_comm]
  rw [feedAll_eq hidle, feedAll_eq hidle, takeAll_press hfree hkey rfl, hhold,
    ModTapStage.takeAll_ordinary hfree hordinary, List.nil_append, List.map_map]
  simp only [ModTapStage.heldOutputs, List.cons_append, settleAll, settleAll_append, hwith,
    settle_hold, settle_lift, Response.append_empty, Response.append_assoc]
  rfl

/-- **A mod-tap equals the rewritten stream.** -/
theorem feedAll_modTap (hreach : Reachable settings engine) (hcombos : settings.combos = [])
    (hpending : engine.modTaps.pending = none) {key : Key} {modTap : ModTap}
    (hkey : ModTap.ofKey? key = some modTap)
    (hheld : (engine.modTaps.held.any fun other => other.key == key) = false)
    {events : List KeyEvent} (hevents : ∀ event ∈ events, ModTap.ofKey? event.key = none)
    (mods mods' : ModMask) (start stop : Nat) :
    let run := engine.feedAll (.press key mods start :: (events ++ [.release key mods' stop]))
    (¬HeldOver settings.tappingTerm start events (.release key mods' stop) →
      run = engine.feedAll
        (.press modTap.tap mods start :: .release modTap.tap mods stop :: events)) ∧
    (HeldOver settings.tappingTerm start events (.release key mods' stop) →
      let rewritten := engine.feedAll (events.map (·.withMods modTap.mask))
      run = (rewritten.1, engine.told modTap .press ++ rewritten.2 ++
        engine.told modTap .release)) := by
  obtain ⟨queue, hb⟩ := hreach.backlog
  have hidle := hreach.idle hcombos
  have hfree : ModTapStage.Free engine.modTaps := ⟨hpending, (hb.of_free hpending).2⟩
  rw [← ModTap.key_of_ofKey? hkey] at hheld
  rw [← hreach.term]
  exact ⟨feedAll_of_not_heldOver hidle hfree hkey hevents,
    feedAll_of_heldOver hidle hfree hkey hheld hevents⟩

/-- `a` pressed and released behind `homeN` is typed with the left alt key held. -/
theorem feedAll_modTap_alt_a :
    HeldOver 200 0 [.press .a ∅ 10, .release .a ∅ 20] (.release .homeN ∅ 30) ∧
      (new {}).feedAll
          [.press .homeN ∅ 0, .press .a ∅ 10, .release .a ∅ 20, .release .homeN ∅ 30] =
        let rewritten := (new {}).feedAll
          [.press .a (.single .leftAlt) 10, .release .a (.single .leftAlt) 20]
        (rewritten.1, (new {}).told ⟨.homeN, .n, .leftAlt⟩ .press ++ rewritten.2 ++
          (new {}).told ⟨.homeN, .n, .leftAlt⟩ .release) :=
  have hover : HeldOver 200 0 [.press .a ∅ 10, .release .a ∅ 20] (.release .homeN ∅ 30) := by
    decide
  ⟨hover, (@feedAll_modTap {} (new {}) ⟨[], rfl⟩ rfl rfl .homeN ⟨.homeN, .n, .leftAlt⟩ rfl rfl
    [.press .a ∅ 10, .release .a ∅ 20] (by decide) ∅ ∅ 0 30).2 hover⟩

end Engine

end Keymap
