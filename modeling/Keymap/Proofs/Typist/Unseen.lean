import Keymap.Engine
import Keymap.Proofs.Delay
import Keymap.Proofs.Typist.Trackers

/-!
# What the typist does not look at

The typist keeps times to tell taps from holds, and the layer to tell the lights of it.
Neither the origin of the clock nor the layer shows in what is typed.

- `Typist.moved`: the typist on a later clock and on another layer.
- `Typist.typeKey_moved`, `Typist.resolveDual_moved`: the handlers.
- `Typist.handle_moved`: **a typist that is moved types the same** for an event that is
  as much later, and stays moved as far.
- `Engine.settleAll_moved`: so it does for all that leaves the mod-tap stage.
-/

namespace Keymap

/-- The typist on a clock that is `d` milliseconds ahead, and on another layer. -/
def Typist.moved (d : Nat) (move : Layer → Layer) (typist : Typist) : Typist :=
  { typist with timers := typist.timers.delay d, layer := move typist.layer }

namespace Typist

variable (d : Nat) (move : Layer → Layer) (typist : Typist) (event : KeyEvent)

@[simp] theorem moved_memory : (typist.moved d move).memory = typist.memory := rfl

@[simp] theorem moved_capsWord : (typist.moved d move).capsWord = typist.capsWord := rfl

@[simp] theorem moved_bothShiftsToggle :
    (typist.moved d move).bothShiftsToggle = typist.bothShiftsToggle := rfl

/-! ## Trackers -/

theorem watchShifts_moved :
    ((typist.moved d move).watchShifts (event.delay d)).1 =
      (typist.watchShifts event).1.moved d move := by
  unfold watchShifts
  rw [moved_bothShiftsToggle, show bothShiftsDown (event.delay d) = bothShiftsDown event from rfl]
  split <;> rfl

/-- The gate looks at caps word alone. -/
theorem gate_moved :
    ((typist.moved d move).gate (event.delay d)).1 = (typist.gate event).1.moved d move ∧
      ((typist.moved d move).gate (event.delay d)).2.1 = (typist.gate event).2.1 := by
  unfold gate
  rw [moved_capsWord,
    show typist.capsWord.onPress (event.delay d) = typist.capsWord.onPress event from rfl]
  obtain ⟨capsWord, verdict⟩ := typist.capsWord.onPress event
  cases verdict with
  | inactive => exact ⟨rfl, rfl⟩
  | goesOn shift => exact ⟨rfl, rfl⟩
  | ended => exact ⟨rfl, rfl⟩

/-- The trackers say the same of a press. -/
theorem track_moved :
    ((typist.moved d move).track (event.delay d)).1 = (typist.track event).1.moved d move ∧
      ((typist.moved d move).track (event.delay d)).2.1 = (typist.track event).2.1 := by
  obtain ⟨hgate, hshift⟩ := (typist.watchShifts event).1.gate_moved d move event
  unfold track
  simp only [watchShifts_moved, hgate, hshift]
  exact ⟨rfl, rfl⟩

/-! ## Handlers -/

theorem handBack_moved (case : FragmentCase) :
    (typist.moved d move).handBack case = (typist.handBack case).moved d move := by
  unfold handBack
  split <;> rfl

theorem magic_moved (side : MagicSide) (case : FragmentCase) :
    (typist.moved d move).magic side case =
      ((typist.magic side case).1.moved d move, (typist.magic side case).2) := by
  unfold magic
  rw [moved_memory]
  cases side.expand typist.memory.key typist.memory.mods with
  | none => exact congrArg (·, []) (typist.handBack_moved d move case)
  | some expansion =>
    cases hends : endsSentence expansion.text with
    | false => simp only [hends]; rfl
    | true => simp only [hends]; rfl

theorem alternate_moved (table : KeyTable String) (case : FragmentCase) :
    (typist.moved d move).alternate table case =
      ((typist.alternate table case).1.moved d move, (typist.alternate table case).2) := by
  unfold alternate
  rw [moved_memory]
  cases table.find? typist.memory.key with
  | none => exact congrArg (·, []) (typist.handBack_moved d move case)
  | some text => rfl

/-- A handler types the same and leaves the typist moved as far. -/
theorem typeKey_moved (cue : Cue) :
    (typist.moved d move).typeKey (event.delay d) cue =
      ((typist.typeKey event cue).1.moved d move, (typist.typeKey event cue).2) := by
  unfold typeKey
  rw [show (event.delay d).key = event.key from rfl]
  cases event.key.role with
  | magic side => exact typist.magic_moved d move side cue.case
  | alternate table => exact typist.alternate_moved d move table cue.case
  | dual letters =>
    -- the record of the press is later too
    have hpress := typist.timers.press_delay d event.key
      ⟨event.time, event.mods, cue.case.capitalise⟩
    exact congrArg (fun timers => (({ typist with
      position := typist.position.observe event
      timers := timers
      layer := move typist.layer } : Typist), ([] : List Output))) hpress
  | _ => rfl

/-- A dual key comes up as much later as it went down. -/
theorem resolveDual_moved (dual : DualKey) :
    (typist.moved d move).resolveDual dual (event.delay d) =
      ((typist.resolveDual dual event).1.moved d move, (typist.resolveDual dual event).2) := by
  have hrelease := typist.timers.release_delay d event.key event.time
  unfold resolveDual
  rw [show (typist.moved d move).timers.release (event.delay d).key (event.delay d).time = _
    from hrelease]
  obtain ⟨timers, resolution, record?⟩ := typist.timers.release event.key event.time
  cases resolution with
  | tap => cases record? <;> rfl
  | hold => cases record? <;> rfl

/-! ## Events -/

theorem press_moved :
    ((typist.moved d move).press (event.delay d)).1 = (typist.press event).1.moved d move ∧
      ((typist.moved d move).press (event.delay d)).2.outputs =
        (typist.press event).2.outputs := by
  cases hmode : event.key.role.isModeSwitch with
  | true =>
    unfold press
    rw [show (event.delay d).key = event.key from rfl]
    cases hrole : event.key.role with
    | capsWordToggle | sentenceCaseOn | sentenceCaseToggle => exact ⟨rfl, rfl⟩
    | _ =>
      rw [hrole] at hmode
      cases hmode
  | false =>
    obtain ⟨htracked, hcue⟩ := typist.track_moved d move event
    rw [press_eq _ hmode, @press_eq (event.delay d) _ hmode, htracked, hcue, typeKey_moved]
    exact ⟨rfl, rfl⟩

theorem release_moved :
    ((typist.moved d move).release (event.delay d)).1 = (typist.release event).1.moved d move ∧
      ((typist.moved d move).release (event.delay d)).2.outputs =
        (typist.release event).2.outputs := by
  unfold release
  rw [show (event.delay d).key = event.key from rfl]
  cases event.key.role with
  | dual letters =>
    have hresolved := typist.resolveDual_moved d move event letters
    show ((typist.moved d move).resolveDual letters (event.delay d)).1 = _ ∧
      ((typist.moved d move).resolveDual letters (event.delay d)).2 = _
    rw [hresolved]
    exact ⟨rfl, rfl⟩
  | _ => exact ⟨rfl, rfl⟩

/-- **A typist that is moved types the same** for an event that is as much later, and stays
moved as far. -/
theorem handle_moved :
    ((typist.moved d move).handle (event.delay d)).1 = (typist.handle event).1.moved d move ∧
      ((typist.moved d move).handle (event.delay d)).2.outputs =
        (typist.handle event).2.outputs := by
  unfold handle
  rw [show (event.delay d).action = event.action from rfl]
  cases event.action with
  | press => exact typist.press_moved d move event
  | release => exact typist.release_moved d move event

end Typist

/-! ## What leaves the mod-tap stage -/

/-- What leaves the stage, with its events later. -/
def StageOutput.delay (d : Nat) : StageOutput → StageOutput
  | .pass event => .pass (event.delay d)
  | .tap modTap press release => .tap modTap (press.delay d) (release.delay d)
  | .hold modTap first => .hold modTap first
  | .lift modTap last => .lift modTap last

@[simp] theorem StageOutput.delay_zero (output : StageOutput) : output.delay 0 = output := by
  cases output <;> rfl

namespace Engine

variable (d : Nat) (move : Layer → Layer) (typist : Typist)

theorem settle_moved (output : StageOutput) :
    (settle (typist.moved d move) (output.delay d)).1 = (settle typist output).1.moved d move ∧
      (settle (typist.moved d move) (output.delay d)).2.outputs =
        (settle typist output).2.outputs := by
  cases output with
  | pass event => exact typist.handle_moved d move event
  | tap modTap press release =>
    obtain ⟨hpress, hdown⟩ := typist.handle_moved d move press
    obtain ⟨hrelease, hup⟩ := (typist.handle press).1.handle_moved d move release
    simp only [StageOutput.delay, settle, Response.outputs_append, hpress, hdown, hrelease, hup,
      and_self]
  | hold modTap first => exact ⟨rfl, rfl⟩
  | lift modTap last => exact ⟨rfl, rfl⟩

/-- **A typist that is moved types the same** for all that leaves the mod-tap stage. -/
theorem settleAll_moved (outputs : List StageOutput) :
    (settleAll (typist.moved d move) (outputs.map (StageOutput.delay d))).1 =
        (settleAll typist outputs).1.moved d move ∧
      (settleAll (typist.moved d move) (outputs.map (StageOutput.delay d))).2.outputs =
        (settleAll typist outputs).2.outputs := by
  induction outputs generalizing typist with
  | nil => exact ⟨rfl, rfl⟩
  | cons output rest ih =>
    obtain ⟨hnext, hnow⟩ := settle_moved d move typist output
    obtain ⟨hlast, hlater⟩ := ih (settle typist output).1
    simp only [List.map_cons, settleAll, Response.outputs_append, hnext, hnow, hlast, hlater,
      and_self]

end Engine

end Keymap
