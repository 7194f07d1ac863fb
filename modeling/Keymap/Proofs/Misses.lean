import Mathlib
import Keymap.Proofs.Chord.Keys
import Keymap.Proofs.Lights
import Keymap.Proofs.Rewriting
import Keymap.Proofs.Typist.Sentence

/-!
# Triggers that find nothing

A trigger is shown to the gate and to the sentence tracker before its table is asked, so
a capital that is due is given away to a press that may type nothing. Such a press hands
it back, and nothing that the trackers touched on the way is different then.

- `Memory.Misses`: the triggers that find nothing after what is remembered.
- `Typist.track_of_isLetterClass`: all that the trackers do to a typist for such a press.
- `Typist.press_of_misses`: **a press that finds nothing leaves the typist as it is**.
- `Engine.Missed`: calls that find nothing to do.
- `Engine.callAll_missed`: **any number of them leave the engine as it is** and the host
  and the lights alone.
-/

namespace Keymap

/-! ## Keys -/

/-- A key that goes to the host types no text of its own choice. -/
theorem Key.not_typesText_of_plain {key : Key} (h : key.role = .plain) :
    key.typesText = false := by
  cases key <;> first | rfl | cases h

theorem Key.isLetterClass_of_typesText {key : Key} (h : key.typesText = true) :
    key.isLetterClass = true := by
  simp only [typesText, Bool.or_eq_true] at h
  simp only [isLetterClass, Bool.or_eq_true]
  rcases h with (hmagic | halternate) | hword
  · exact .inl (.inl (.inl (.inr hmagic)))
  · exact .inl (.inl (.inr halternate))
  · exact .inl (.inr hword)

theorem ModTap.ofKey?_of_typesText {key : Key} (h : key.typesText = true) :
    ofKey? key = none := by
  cases key <;> first | rfl | cases h

namespace Memory

/-- A trigger that finds nothing after what is remembered: a magic key after a shortcut,
or a key whose table has no entry. -/
inductive Misses (memory : Memory) : Key → Prop where
  | shortcut (side : MagicSide) (mods : memory.mods.hasNonShift = true) :
      Misses memory side.trigger
  | magic (side : MagicSide) (entry : side.table.find? memory.key = none) :
      Misses memory side.trigger
  | alternate {key : Key} {table : KeyTable String} (own : alternateTable? key = some table)
      (entry : table.find? memory.key = none) : Misses memory key

namespace Misses

variable {memory : Memory} {key : Key}

/-- What the handler of the key is told. -/
theorem role (h : memory.Misses key) :
    (∃ side, key.role = .magic side ∧ side.expand memory.key memory.mods = none) ∨
      ∃ table, key.role = .alternate table ∧ table.find? memory.key = none := by
  have hmagic (side : MagicSide) : side.trigger.role = .magic side := by cases side <;> rfl
  cases h with
  | shortcut side hmods => exact .inl ⟨side, hmagic side, if_pos hmods⟩
  | magic side hentry =>
    refine .inl ⟨side, hmagic side, ?_⟩
    unfold MagicSide.expand
    split
    · rfl
    · exact hentry
  | @alternate _ table hown hentry =>
    have hrole : key.role = .alternate table := by
      cases key <;> cases hown <;> rfl
    exact .inr ⟨table, hrole, hentry⟩

theorem typesText (h : memory.Misses key) : key.typesText = true := by
  cases h with
  | shortcut side => cases side <;> rfl
  | magic side => cases side <;> rfl
  | alternate hown => cases key <;> first | rfl | cases hown

theorem not_isModeSwitch (h : memory.Misses key) : key.role.isModeSwitch = false := by
  rcases h.role with ⟨side, hrole, -⟩ | ⟨table, hrole, -⟩
  · rw [hrole]
    rfl
  · rw [hrole]
    rfl

end Misses

end Memory

/-! ## The typist -/

namespace Typist

variable {event : KeyEvent}

theorem watchShifts_of_not_isModifier (typist : Typist) (h : event.key.isModifier = false) :
    typist.watchShifts event = (typist, []) := by
  have hshifts : bothShiftsDown event = false := by
    refine Bool.eq_false_iff.mpr fun hdown => ?_
    rw [isModifier_of_bothShiftsDown hdown] at h
    cases h
  unfold watchShifts
  rw [hshifts, Bool.and_false]
  rfl

/-- Unless it is a shortcut, a key that begins with a letter goes through the gate. -/
theorem gate_of_isLetterClass (typist : Typist) (hkey : event.key.isLetterClass = true)
    (hmods : event.mods.hasNonShift = false) :
    (typist.gate event).1 = typist ∧ (typist.gate event).2.2 = [] := by
  have hkeeps : CapsWord.keepsAlive event.key = true := by
    unfold CapsWord.keepsAlive
    rw [hkey]
    rfl
  unfold gate CapsWord.onPress
  rw [Key.not_isModifier_of_isLetterClass hkey, hmods, hkeeps]
  cases typist.capsWord.active with
  | false => exact ⟨rfl, rfl⟩
  | true => exact ⟨rfl, rfl⟩

/-- Then the trackers move only the sentence tracker, and the lights are sent nothing. -/
theorem track_of_isLetterClass (typist : Typist) (hkey : event.key.isLetterClass = true)
    (hmods : event.mods.hasNonShift = false) :
    (typist.track event).1 =
        { typist with sentence := (typist.sentence.onEvent event).1 } ∧
      (typist.track event).2.2 = [] := by
  have hwatched := typist.watchShifts_of_not_isModifier
    (Key.not_isModifier_of_isLetterClass hkey)
  obtain ⟨hsame, hnone⟩ := typist.gate_of_isLetterClass hkey hmods
  unfold track
  rw [hwatched]
  simp only [hsame, hnone, List.append_nil, and_self]

/-- **What the trackers give away for a press comes back** if it is handed back. -/
theorem handBack_track (typist : Typist) (hdown : event.action = .press)
    (hkey : event.key.isLetterClass = true) (hmods : event.mods.hasNonShift = false) :
    (typist.track event).1.handBack (typist.track event).2.1.case = typist := by
  have hletter : SentenceCase.classify event = .letter := by
    rw [SentenceCase.classify_of_letterClass hdown hkey,
      ModMask.shiftOrAltGrOnly_of_not_hasNonShift hmods, if_pos rfl]
  have hback := typist.sentence.handBack_onEvent hletter
  unfold handBack
  rw [typist.track_capitalise, (typist.track_of_isLetterClass hkey hmods).1]
  split
  · next hcapital =>
    rw [if_pos hcapital] at hback
    exact congrArg (fun sentence => { typist with sentence := sentence }) hback
  · next hcapital =>
    rw [if_neg hcapital] at hback
    exact congrArg (fun sentence => { typist with sentence := sentence }) hback

/-- A handler that finds nothing hands the capital back. -/
theorem typeKey_of_misses (typist : Typist) (h : typist.memory.Misses event.key) (cue : Cue) :
    typist.typeKey event cue = (typist.handBack cue.case, []) := by
  rcases h.role with ⟨side, hrole, hexpand⟩ | ⟨table, hrole, hfind⟩
  · simp only [typeKey, hrole, magic, hexpand]
  · simp only [typeKey, hrole, alternate, hfind]

/-- **A press that finds nothing leaves the typist as it is.** -/
theorem press_of_misses (typist : Typist) (h : typist.memory.Misses event.key)
    (hdown : event.action = .press) (hmods : event.mods.hasNonShift = false) :
    typist.press event = (typist, ∅) := by
  have hkey := Key.isLetterClass_of_typesText h.typesText
  have htracked : (typist.track event).1.memory.Misses event.key := by
    rwa [typist.track_memory]
  rw [typist.press_eq h.not_isModeSwitch, typeKey_of_misses _ htracked,
    typist.handBack_track hdown hkey hmods, (typist.track_of_isLetterClass hkey hmods).2]
  rfl

/-- A trigger that comes up does nothing. -/
theorem release_of_typesText (typist : Typist) (h : event.key.typesText = true) :
    typist.release event = (typist, ∅) := by
  unfold release
  cases hrole : event.key.role with
  | dual letters =>
    rw [(Key.eq_of_dual hrole).1] at h
    cases h
  | plain =>
    rw [Key.not_typesText_of_plain hrole] at h
    cases h
  | _ => rfl

end Typist

/-! ## The engine -/

namespace Engine

variable {settings : EngineSettings} {engine : Engine}

/-- Runs let only keys of chords be swallowed. -/
theorem Reachable.swallowsMembers (h : Reachable settings engine) :
    engine.chords.SwallowsMembers := by
  obtain ⟨calls, rfl⟩ := h
  have hfresh : (new settings).chords.SwallowsMembers := by
    intro key hmem
    cases hmem
  rw [callAll_chords]
  exact hfresh.signalAll calls

/-- While nothing is held back or pending, a tick does nothing. -/
theorem tick_eq_self (hheld : engine.chords.held = none)
    (hfree : ModTapStage.Free engine.modTaps) (now : Nat) : engine.tick now = (engine, ∅) := by
  have hchords : engine.chords.tick now = (engine.chords, none) := by
    unfold ChordDetector.tick
    rw [hheld]
  have hmodTaps : engine.modTaps.expire now = (engine.modTaps, []) := by
    unfold ModTapStage.expire
    rw [ModTapStage.expired?_eq_none hfree]
  simp only [tick, expire, hchords, hmodTaps, Option.toList_none, routeAll, settleAll,
    Response.append_empty]

/-- A call that finds nothing to do: a trigger that finds nothing goes down and no shortcut
is made with it, a trigger comes up, or the clock advances. -/
inductive Missed (engine : Engine) : Call → Prop where
  | press {event : KeyEvent} (down : event.action = .press)
      (misses : engine.typist.memory.Misses event.key)
      (lone : engine.chords.isMember event.key = false)
      (mods : (event.mods ∪ engine.modTapMods).hasNonShift = false) :
      Missed engine (.event event)
  | release {event : KeyEvent} (up : event.action = .release)
      (trigger : event.key.typesText = true)
      (lone : engine.chords.isMember event.key = false) : Missed engine (.event event)
  | tick (now : Nat) : Missed engine (.tick now)

/-- **A call that finds nothing to do leaves the engine as it is.** -/
theorem call_missed (hreach : Reachable settings engine) (hheld : engine.chords.held = none)
    (hpending : engine.modTaps.pending = none) {call : Call} (h : Missed engine call) :
    engine.call call = (engine, ∅) := by
  have hfree := hreach.free hpending
  have hfeed {event : KeyEvent} (hlone : engine.chords.isMember event.key = false)
      (hkey : ModTap.ofKey? event.key = none)
      (hsame : engine.typist.handle (event.withMods engine.modTapMods) = (engine.typist, ∅)) :
      engine.feed event = (engine, ∅) := by
    rw [feed_ordinary (hreach.swallowsMembers.feed_of_not_member hheld hlone) hfree hkey, hsame]
  cases h with
  | @press event hdown hmisses hlone hmods =>
    refine hfeed hlone (ModTap.ofKey?_of_typesText hmisses.typesText) ?_
    rw [@Typist.handle_press (event.withMods engine.modTapMods) _ hdown]
    exact @Typist.press_of_misses (event.withMods engine.modTapMods) _ hmisses hdown hmods
  | @release event hup htrigger hlone =>
    refine hfeed hlone (ModTap.ofKey?_of_typesText htrigger) ?_
    unfold Typist.handle
    rw [show (event.withMods engine.modTapMods).action = .release from hup]
    exact @Typist.release_of_typesText (event.withMods engine.modTapMods) _ htrigger
  | tick now => exact tick_eq_self hheld hfree now

/-- **Triggers that find nothing leave the engine as it is**, however often they are
pressed. Neither the host nor the lights are sent anything, and a capital that is due is
due afterwards. -/
theorem callAll_missed (hreach : Reachable settings engine) (hheld : engine.chords.held = none)
    (hpending : engine.modTaps.pending = none) {calls : List Call}
    (hmissed : ∀ call ∈ calls, Missed engine call) : engine.callAll calls = (engine, ∅) := by
  induction calls with
  | nil => rfl
  | cons call rest ih =>
    obtain ⟨hfirst, hrest⟩ := List.forall_mem_cons.mp hmissed
    rw [callAll_cons, call_missed hreach hheld hpending hfirst, ih hrest]
    rfl

/-- A magic key and an alternate-repeat key find nothing after a full stop. A capital is
due, caps word is on, and a mod-tap holds a shift. -/
theorem callAll_missed_after_dot :
    let settings : EngineSettings := { combos := [⟨.j, .k, .escape⟩] }
    let engine := ((new settings).callAll
      [.event (.press .dot ∅ 0), .event (.release .dot ∅ 20), .event (.press .homeH ∅ 100),
        .tick 300, .capsWord true]).1
    let calls : List Call :=
      [.event (.press .magicRight ∅ 310), .event (.release .magicRight ∅ 330), .tick 340,
        .event (.press .altRepeat1 (.single .rightShift) 350),
        .event (.release .altRepeat1 ∅ 380)]
    engine.typist.sentence.isPrimed = true ∧ engine.typist.capsWord.active = true ∧
      engine.modTapMods = .single .leftShift ∧ (∀ call ∈ calls, Missed engine call) ∧
      engine.callAll calls = (engine, ∅) := by
  intro settings engine calls
  have hmemory : engine.typist.memory = ⟨.dot, ∅⟩ := by cbv
  have hmods : engine.modTapMods = .single .leftShift := by cbv
  have hchords : engine.chords = { chords := [⟨.j, .k, .escape⟩] } := by cbv
  have hright : engine.typist.memory.Misses .magicRight := by
    rw [hmemory]
    exact .magic .right rfl
  have hbigram : engine.typist.memory.Misses .altRepeat1 := by
    rw [hmemory]
    exact @Memory.Misses.alternate _ .altRepeat1 bigramTable rfl rfl
  have hrightLone : engine.chords.isMember .magicRight = false := by
    rw [hchords]
    rfl
  have hbigramLone : engine.chords.isMember .altRepeat1 = false := by
    rw [hchords]
    rfl
  have hmissed : ∀ call ∈ calls, Missed engine call := by
    simp only [calls, List.forall_mem_cons]
    exact ⟨.press rfl hright hrightLone (by rw [hmods]; rfl), .release rfl rfl hrightLone,
      .tick 340, .press rfl hbigram hbigramLone (by rw [hmods]; rfl),
      .release rfl rfl hbigramLone, by simp⟩
  exact ⟨by cbv, by cbv, hmods, hmissed,
    callAll_missed ⟨_, rfl⟩ (by rw [hchords]) (by cbv) hmissed⟩

end Engine

end Keymap
