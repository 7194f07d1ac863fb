import Mathlib
import Keymap.Proofs.Typist.Steps
import Keymap.Proofs.Typist.Trackers

/-!
# Magic after a shortcut

A key that was typed with ctrl, alt or gui held has no expansion: what it did is not
text that a word could go on from. Memory keeps the modifiers of the keys that are
sent on, and those have none. It keeps no modifiers for a key that types another one,
and so a shortcut is completed if memory is left with a key that has an expansion.

- `openPress?`: the press of a key that is still down after some events.
- `Shortcut`: an event that types a shortcut and sets memory.
- `MagicCompletes`: the shortcuts that a magic key completes.
- `Recorded`: the timers know the press of each dual key that is down.
- `Typist.magic_silent_iff`: a magic key types nothing if memory has no expansion.
- `Engine.steps_magic_silent_iff`: **a magic key types nothing after a shortcut**, unless
  it is one that it completes.
-/

namespace Keymap

/-! ## Shortcuts -/

/-- The press of a key that is still down after some events, if it is down. -/
def openPress? (key : Key) (events : List KeyEvent) : Option KeyEvent :=
  events.foldl
    (fun press? event =>
      if event.key = key then (if event.isPress then some event else none) else press?) none

theorem openPress?_concat (key : Key) (events : List KeyEvent) (event : KeyEvent) :
    openPress? key (events ++ [event]) =
      if event.key = key then (if event.isPress then some event else none)
      else openPress? key events := by
  unfold openPress?
  rw [List.foldl_append]
  rfl

/-- An event that types something with ctrl, alt or gui held and sets memory: a key that
goes to the host and is remembered, the switch between `h` and `v`, or a dual key that
comes up and had one of them held at its press. -/
inductive Shortcut (before : List KeyEvent) : KeyEvent → Prop where
  | plain {event : KeyEvent} (role : event.key.role = .plain) (down : event.action = .press)
      (remembered : Memory.accepts event.key = true) (mods : event.mods.hasNonShift = true) :
      Shortcut before event
  | vowelSwitch {event : KeyEvent} {reversed : Bool}
      (role : event.key.role = .vowelSwitch reversed) (down : event.action = .press)
      (mods : event.mods.hasNonShift = true) : Shortcut before event
  | dual {event press : KeyEvent} {letters : DualKey} (role : event.key.role = .dual letters)
      (up : event.action = .release) (pressed : openPress? event.key before = some press)
      (mods : press.mods.hasNonShift = true) : Shortcut before event

/-- The shortcuts that a magic key completes: those of the switch that types `h`, and
for the right key those of a dual key that was held for `q`. -/
def MagicCompletes (term : Nat) (side : MagicSide) (before : List KeyEvent) (event : KeyEvent) :
    Prop :=
  event.key = .hvSwitch ∨
    event.key = .qu ∧ side = .right ∧
      ∃ press, openPress? .qu before = some press ∧ term ≤ event.time - press.time

/-! ## Timers -/

/-- The timers know the press of each dual key that is down. -/
structure Recorded (term : Nat) (before : List KeyEvent) (typist : Typist) : Prop where
  term : typist.timers.term = term
  press : ∀ key : Key, key.isDual = true →
    (typist.timers.get? key).map (fun record => (record.time, record.mods)) =
      (openPress? key before).map fun event => (event.time, event.mods)

namespace Recorded

variable {term : Nat} {before : List KeyEvent} {typist : Typist}

/-- An event keeps the records right. -/
theorem handle (h : Recorded term before typist) (event : KeyEvent) :
    Recorded term (before ++ [event]) (typist.handle event).1 := by
  have htimers := typist.handle_timers event
  constructor
  case term =>
    rw [htimers, ← h.term]
    split
    · split <;> rfl
    · rfl
  case press =>
    intro key hkey
    rw [openPress?_concat]
    by_cases hown : event.key = key
    · rw [if_pos hown, htimers, hown, if_pos hkey]
      cases haction : event.action with
      | press => simp [KeyEvent.isPress, haction]
      | release => simp [KeyEvent.isPress, haction]
    · rw [if_neg hown, ← h.press key hkey, typist.handle_get?_of_ne hown]

/-- So does every step. -/
theorem step (h : Recorded term before typist) (first : Typist.Step) :
    Recorded term (before ++ first.event?.toList) (typist.step first) := by
  cases first with
  | handle event => exact h.handle event
  | layer layer =>
    rw [show (Typist.Step.layer layer).event?.toList = [] from rfl, List.append_nil,
      Typist.step_layer]
    exact ⟨h.term, h.press⟩
  | capsWord active =>
    rw [show (Typist.Step.capsWord active).event?.toList = [] from rfl, List.append_nil,
      Typist.step_capsWord]
    exact ⟨h.term, h.press⟩

end Recorded

/-- After any steps of a fresh typist the records are right. -/
theorem recorded_stepAll (settings : EngineSettings) (steps : List Typist.Step) :
    Recorded settings.tappingTerm (Typist.Step.events steps)
      ((Engine.new settings).typist.stepAll steps) := by
  have hfresh : Recorded settings.tappingTerm [] (Engine.new settings).typist :=
    ⟨rfl, fun _ _ => rfl⟩
  exact Typist.stepAll_invariant (fun _ _ first h => h.step first) hfresh steps

/-! ## Memory -/

theorem MagicSide.expand_h (side : MagicSide) : side.expand .h ∅ ≠ none := by
  cases side <;> decide

theorem MagicSide.expand_v (side : MagicSide) : side.expand .v ∅ = none := by
  cases side <;> decide

theorem MagicSide.expand_u (side : MagicSide) : side.expand .u ∅ = none := by
  cases side <;> decide

theorem MagicSide.expand_q (side : MagicSide) : side.expand .q ∅ = none ↔ ¬side = .right := by
  cases side <;> decide

namespace Typist

variable {event : KeyEvent}

/-- A key that goes to the host is remembered with its modifiers, and with a shift if it
is a capital. -/
theorem memory_of_plain (typist : Typist) (hrole : event.key.role = .plain)
    (hdown : event.action = .press) :
    ∃ mods, mods.hasNonShift = event.mods.hasNonShift ∧
      (typist.handle event).1.memory = (typist.memory.observe event.key mods).1 := by
  rw [typist.handle_press hdown, typist.press_eq (congrArg Role.isModeSwitch hrole)]
  simp only [typeKey, hrole, forward, track_memory]
  refine ⟨_, ?_, rfl⟩
  split
  · exact ModMask.hasNonShift_union_leftShift event.mods
  · rfl

/-- In a shortcut the choice of the switch is fixed, and no modifier is remembered. -/
theorem memory_of_vowelSwitch (typist : Typist) {reversed : Bool}
    (hrole : event.key.role = .vowelSwitch reversed) (hdown : event.action = .press)
    (hmods : event.mods.hasNonShift = true) :
    (typist.handle event).1.memory = ⟨if reversed then .v else .h, ∅⟩ := by
  rw [typist.handle_press hdown, typist.press_eq (congrArg Role.isModeSwitch hrole)]
  simp only [typeKey, hrole, switchVowel, remember, VowelSwitch.choose, hmods, if_true]

/-- Of a dual key the last letter is remembered, and no modifier. -/
theorem memory_of_dual (typist : Typist) {letters : DualKey}
    (hrole : event.key.role = .dual letters) (hup : event.action = .release)
    {record : PressRecord} (hrecord : typist.timers.get? event.key = some record) :
    (typist.handle event).1.memory =
      ⟨if typist.timers.term ≤ event.time - record.time then letters.first else letters.second,
        ∅⟩ := by
  have hresolution : (typist.timers.release event.key event.time).2.1 =
      typist.timers.resolve record event.time := by
    unfold HoldTimers.release
    rw [hrecord]
    rfl
  obtain ⟨shown, capital, -, -, hcases⟩ := typist.resolveDual_cases letters event
  rw [hresolution] at hcases
  unfold HoldTimers.resolve at hcases
  rw [typist.handle_release_dual hup hrole]
  by_cases hterm : typist.timers.term ≤ event.time - record.time
  · rw [if_neg (Nat.not_lt.mpr hterm)] at hcases
    rw [if_pos hterm]
    rcases hcases with ⟨hwrong, -⟩ | ⟨-, hresolve⟩
    · cases hwrong
    · rw [hresolve]
      rfl
  · rw [if_pos (Nat.lt_of_not_le hterm)] at hcases
    rw [if_neg hterm]
    rcases hcases with ⟨-, hresolve⟩ | ⟨hwrong, -⟩
    · rw [hresolve]
      rfl
    · cases hwrong

/-- **A magic key types nothing and leaves memory alone if what is remembered has no
expansion**, and else it types one. -/
theorem magic_silent_iff (typist : Typist) {side : MagicSide} (hkey : event.key = side.trigger)
    (hdown : event.action = .press) :
    ((typist.handle event).2.outputs = [] ∧
        (typist.handle event).1.memory = typist.memory) ↔
      side.expand typist.memory.key typist.memory.mods = none := by
  have hrole : event.key.role = .magic side := by
    rw [hkey]
    cases side <;> rfl
  rw [typist.handle_press hdown, typist.press_eq (congrArg Role.isModeSwitch hrole)]
  simp only [typeKey, hrole, magic, track_memory]
  cases hexpand : side.expand typist.memory.key typist.memory.mods with
  | none =>
    refine iff_of_true ⟨rfl, ?_⟩ rfl
    show ((typist.track event).1.handBack _).memory = typist.memory
    rw [← typist.track_memory event]
    unfold handBack
    split <;> rfl
  | some expansion =>
    refine iff_of_false (fun h => ?_) (Option.some_ne_none expansion)
    simp [typeText, typeFragment] at h

end Typist

/-! ## The pipeline -/

/-- What has an expansion after a shortcut. -/
theorem expand_eq_none_iff {term : Nat} {before : List KeyEvent} {typist : Typist}
    {event : KeyEvent} (hrecorded : Recorded term before typist)
    (hshortcut : Shortcut before event) (side : MagicSide) :
    side.expand (typist.handle event).1.memory.key (typist.handle event).1.memory.mods = none ↔
      ¬MagicCompletes term side before event := by
  cases hshortcut with
  | plain hrole hdown haccepts hmods =>
    obtain ⟨mods, hsame, hmemory⟩ := typist.memory_of_plain hrole hdown
    rw [hmemory, Memory.observe, if_pos haccepts]
    refine iff_of_true (if_pos (hsame.trans hmods)) ?_
    rintro (hkey | ⟨hkey, -⟩) <;> rw [hkey] at hrole <;> contradiction
  | @vowelSwitch reversed hrole hdown hmods =>
    have hkey := Key.eq_of_vowelSwitch hrole
    rw [typist.memory_of_vowelSwitch hrole hdown hmods]
    unfold MagicCompletes
    rw [hkey]
    cases reversed with
    | false => exact iff_of_false (MagicSide.expand_h side) (fun h => h (.inl rfl))
    | true =>
      refine iff_of_true (MagicSide.expand_v side) ?_
      rintro (h | ⟨h, -⟩)
      · cases h
      · cases h
  | @dual press letters hrole hup hpressed hmods =>
    obtain ⟨hkey, rfl⟩ := Key.eq_of_dual hrole
    have hdual : event.key.isDual = true := by
      unfold Key.isDual
      rw [hrole]
    have hrecord := hrecorded.press event.key hdual
    rw [hpressed] at hrecord
    obtain ⟨record, hget, htime⟩ := Option.map_eq_some_iff.mp hrecord
    obtain ⟨htime, -⟩ := Prod.mk.inj htime
    rw [typist.memory_of_dual hrole hup hget, hrecorded.term, htime]
    rw [hkey] at hpressed
    unfold MagicCompletes
    rw [hkey, hpressed]
    by_cases hterm : term ≤ event.time - press.time
    · -- a hold leaves the q
      rw [if_pos hterm, MagicSide.expand_q]
      refine not_congr ⟨fun hside => .inr ⟨rfl, hside, press, rfl, hterm⟩, ?_⟩
      rintro (h | ⟨-, hside, -⟩)
      · cases h
      · exact hside
    · -- a tap leaves the u
      rw [if_neg hterm]
      refine iff_of_true (MagicSide.expand_u side) ?_
      rintro (h | ⟨-, -, other, hother, hlate⟩)
      · cases h
      · obtain rfl := Option.some.inj hother
        exact hterm hlate

namespace Engine

/-- **A magic key types nothing after a shortcut, unless it completes that.** Whatever a
run of a fresh engine does, take a shortcut that sets memory and a press of a magic key
that comes before anything else is remembered. It types nothing and leaves memory alone
if and only if the shortcut is not one of the switch that types `h`, nor one of a dual key
that was held for a `q` that the right magic key expands. -/
theorem steps_magic_silent_iff {settings : EngineSettings} {calls : List Call}
    {front middle back : List Typist.Step} {event magic : KeyEvent} {side : MagicSide}
    (hsteps : (new settings).steps calls =
      front ++ .handle event :: (middle ++ .handle magic :: back))
    (hshortcut : Shortcut (Typist.Step.events front) event)
    (hkey : magic.key = side.trigger) (hdown : magic.action = .press)
    (hmemory :
      ((new settings).typist.stepAll (front ++ .handle event :: middle)).memory =
        ((new settings).typist.stepAll (front ++ [.handle event])).memory) :
    let later := (new settings).typist.stepAll (front ++ .handle event :: middle)
    ((new settings).callAll calls).1.typist = (later.handle magic).1.stepAll back ∧
      (((later.handle magic).2.outputs = [] ∧ (later.handle magic).1.memory = later.memory) ↔
        ¬MagicCompletes settings.tappingTerm side (Typist.Step.events front) event) := by
  intro later
  constructor
  · have hsplit : front ++ .handle event :: (middle ++ .handle magic :: back) =
        (front ++ .handle event :: middle) ++ .handle magic :: back := by simp
    rw [callAll_stepAll, hsteps, hsplit, Typist.stepAll_append]
    rfl
  · rw [later.magic_silent_iff hkey hdown, hmemory, Typist.stepAll_append]
    exact expand_eq_none_iff (recorded_stepAll settings front) hshortcut side

/-- After ctrl and `a` the right magic key types nothing. -/
theorem steps_magic_silent_iff_ctrl_a :
    let event : KeyEvent := .press .a (.single .leftCtrl) 0
    let magic : KeyEvent := .press .magicRight ∅ 10
    let later := ((new {}).typist.handle event).1
    (new {}).steps [.event event, .event magic] = [.handle event, .handle magic] ∧
      Shortcut [] event ∧ (later.handle magic).2.outputs = [] := by
  intro event magic later
  have hsteps : (new {}).steps [.event event, .event magic] =
      [] ++ .handle event :: ([] ++ .handle magic :: []) := by cbv
  have hshortcut : Shortcut [] event := .plain rfl rfl rfl rfl
  have hother : ¬MagicCompletes 200 .right [] event := by
    rintro (hkey | ⟨hkey, -⟩)
    · cases hkey
    · cases hkey
  exact ⟨hsteps, hshortcut,
    ((@steps_magic_silent_iff {} _ _ _ _ _ _ .right hsteps hshortcut rfl rfl rfl).2.mpr hother).1⟩

/-- After ctrl and the switch, which taps ctrl and `h`, it types the end of a word. -/
theorem steps_magic_after_ctrl_h :
    let event : KeyEvent := .press .hvSwitch (.single .leftCtrl) 0
    let magic : KeyEvent := .press .magicRight ∅ 10
    let later := ((new {}).typist.handle event).1
    (new {}).steps [.event event, .event magic] = [.handle event, .handle magic] ∧
      Shortcut [] event ∧
      ((new {}).callAll [.event event, .event magic]).2.outputs =
        [.tap .h (.single .leftCtrl), .text "ave " false] ∧
      (later.handle magic).2.outputs = [.text "ave " false] ∧
      (later.handle magic).1.memory ≠ later.memory := by
  have hshortcut : Shortcut [] (.press .hvSwitch (.single .leftCtrl) 0) :=
    @Shortcut.vowelSwitch [] _ false rfl rfl rfl
  exact ⟨by cbv, hshortcut, by cbv, by decide, by decide⟩

end Engine

end Keymap
