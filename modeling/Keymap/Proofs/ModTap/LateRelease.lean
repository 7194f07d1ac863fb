import Keymap.Proofs.ModTap.Backlog
import Keymap.Proofs.ModTap.Presses

/-!
# A release after the whole term

An event reads the clock once, before it is let in. When the pending mod-tap is
past its term that settles it, what was behind it is routed again with the times
it had, and another mod-tap may become pending that is past its term as well.
The event is then let in without another look at the clock. If it is the release
of that other mod-tap, it makes it a tap.

- `Holds`, `Taps`, `HeldUnless`: what became of a mod-tap.
- `ModTapStage.afterHolds`: the stage after its pending mod-tap was held, again
  and again.
- `ModTapStage.TapsLate`: a mod-tap is pending after an odd number of holds.
- `ModTapStage.route_release`: **a mod-tap that comes up after its whole term is
  tapped if it `TapsLate`, and held otherwise.**
-/

namespace Keymap

open Stroke

/-- Whether some outputs hold a mod-tap. -/
def Holds (modTap : ModTap) (outputs : List StageOutput) : Prop :=
  ∃ first, .hold modTap first ∈ outputs

/-- Whether some outputs tap a mod-tap. -/
def Taps (modTap : ModTap) (outputs : List StageOutput) : Prop :=
  ∃ press release, .tap modTap press release ∈ outputs

theorem holds_append {modTap : ModTap} {front back : List StageOutput} :
    Holds modTap (front ++ back) ↔ Holds modTap front ∨ Holds modTap back := by
  simp only [Holds, List.mem_append, exists_or]

theorem taps_append {modTap : ModTap} {front back : List StageOutput} :
    Taps modTap (front ++ back) ↔ Taps modTap front ∨ Taps modTap back := by
  simp only [Taps, List.mem_append, exists_or]

/-- Outputs that settle no press of a mod-tap neither hold nor tap it. -/
theorem not_holds_of_settledCount {modTap : ModTap} {outputs : List StageOutput}
    (h : settledCount modTap.key outputs = 0) :
    ¬Holds modTap outputs ∧ ¬Taps modTap outputs := by
  have hnone := List.countP_eq_zero.mp h
  constructor
  · rintro ⟨first, hmem⟩
    exact hnone _ hmem (by simp [StageOutput.settles?])
  · rintro ⟨press, release, hmem⟩
    exact hnone _ hmem (by simp [StageOutput.settles?])

/-- If `late`, a mod-tap is tapped from `start` to `stop` and not held; if not, it
is held and not tapped. -/
def HeldUnless (late : Prop) (modTap : ModTap) (start stop : Nat)
    (outputs : List StageOutput) : Prop :=
  (late → (∃ press up, .tap modTap press up ∈ outputs ∧ press.time = start ∧ up.time = stop) ∧
    ¬Holds modTap outputs) ∧
  (¬late → Holds modTap outputs ∧ ¬Taps modTap outputs)

theorem heldUnless_of_holds {late : Prop} {modTap : ModTap} {start stop : Nat}
    {front back : List StageOutput}
    (hlate : ¬late) (hfront : Holds modTap front ∧ ¬Taps modTap front)
    (hback : ¬Holds modTap back ∧ ¬Taps modTap back) :
    HeldUnless late modTap start stop (front ++ back) := by
  refine ⟨fun h => absurd h hlate, fun _ => ?_⟩
  rw [holds_append, taps_append, not_or]
  exact ⟨.inl hfront.1, hfront.2, hback.2⟩

theorem HeldUnless.after {late : Prop} {modTap : ModTap} {start stop : Nat}
    {front back : List StageOutput}
    (h : HeldUnless late modTap start stop back)
    (hfront : ¬Holds modTap front ∧ ¬Taps modTap front) :
    HeldUnless late modTap start stop (front ++ back) := by
  constructor
  · intro hlate
    obtain ⟨⟨press, up, hmem, htimes⟩, hholds⟩ := h.1 hlate
    rw [holds_append, not_or]
    exact ⟨⟨press, up, List.mem_append_right _ hmem, htimes⟩, hfront.1, hholds⟩
  · intro hlate
    obtain ⟨hholds, htaps⟩ := h.2 hlate
    rw [holds_append, taps_append, not_or]
    exact ⟨.inr hholds, hfront.2, htaps⟩

namespace Settlement

variable {term : Nat} {ordered : Prop} {held held' : List ModTap} {key : Key}
  {events left : List KeyEvent} {outputs : List StageOutput} {modTap : ModTap}

/-- What settles a press of a mod-tap is a hold or a tap of it. -/
theorem hold_or_tap_of_settles (h : Settlement term ordered held events outputs held' left)
    (hkey : ModTap.ofKey? key = some modTap) {output : StageOutput} (hmem : output ∈ outputs)
    (hsettles : output.settles? = some key) :
    (∃ first, output = .hold modTap first) ∨
      ∃ press release, output = .tap modTap press release := by
  -- the key tells which mod-tap it is
  have hsame {own : Key} {other : ModTap} (hother : ModTap.ofKey? own = some other)
      (hsettles : some other.key = some key) : other = modTap := by
    rw [ModTap.key_of_ofKey? hother] at hsettles
    rw [Option.some.inj hsettles, hkey] at hother
    exact (Option.some.inj hother).symm
  induction h with
  | stop => cases hmem
  | stray _ _ _ _ ih => exact ih hmem
  | pass _ _ ih =>
    rcases List.mem_cons.mp hmem with rfl | hmem
    · simp [StageOutput.settles?] at hsettles
    · exact ih hmem
  | lift _ _ _ _ ih =>
    rcases List.mem_cons.mp hmem with rfl | hmem
    · simp [StageOutput.settles?] at hsettles
    · exact ih hmem
  | hold hother _ _ _ ih =>
    rcases List.mem_cons.mp hmem with rfl | hmem
    · exact .inl ⟨_, by rw [hsame hother hsettles]⟩
    · exact ih hmem
  | tap hother _ _ _ _ _ ih =>
    rcases List.mem_cons.mp hmem with rfl | hmem
    · exact .inr ⟨_, _, by rw [hsame hother hsettles]⟩
    · exact ih hmem

/-- A press that is settled is held or tapped. -/
theorem holds_or_taps (h : Settlement term ordered held events outputs held' left)
    (hkey : ModTap.ofKey? key = some modTap) (hpos : 0 < settledCount key outputs) :
    Holds modTap outputs ∨ Taps modTap outputs := by
  obtain ⟨output, hmem, hsettles⟩ := List.countP_pos_iff.mp hpos
  rcases h.hold_or_tap_of_settles hkey hmem (beq_iff_eq.mp hsettles) with
    ⟨first, rfl⟩ | ⟨press, release, rfl⟩
  · exact .inl ⟨first, hmem⟩
  · exact .inr ⟨press, release, hmem⟩

/-- While no key goes down and comes up, nothing is tapped. -/
theorem not_taps_of_unnested (h : Settlement term ordered held events outputs held' left)
    (hunnested : Unnested (events.map KeyEvent.stroke)) (modTap : ModTap) :
    ¬Taps modTap outputs := by
  rintro ⟨press, release, hmem⟩
  have hpair := hunnested.sublist (h.sublist_of_tap hmem)
  exact (unnested_cons.mp hpair).1 modTap.key rfl (by simp)

/-- A press that was there and is gone, with no release in sight, was held. -/
theorem holds_of_lost (h : Settlement term ordered held events outputs held' left)
    (hkey : ModTap.ofKey? key = some modTap)
    (hunnested : Unnested (events.map KeyEvent.stroke))
    (hlost : pressCount key left < pressCount key events) :
    Holds modTap outputs ∧ ¬Taps modTap outputs := by
  have hno := h.not_taps_of_unnested hunnested modTap
  have haccount := h.press_account hkey
  exact ⟨(h.holds_or_taps hkey (by omega)).resolve_right hno, hno⟩

/-- A press that was not there is not settled. -/
theorem not_settled (h : Settlement term ordered held events outputs held' left)
    (hkey : ModTap.ofKey? key = some modTap)
    (hleft : pressCount key events ≤ pressCount key left) :
    ¬Holds modTap outputs ∧ ¬Taps modTap outputs := by
  have haccount := h.press_account hkey
  refine not_holds_of_settledCount ?_
  rw [ModTap.key_of_ofKey? hkey]
  omega

end Settlement

namespace ModTapStage

/-- The stage after its pending mod-tap was held, `n` times over. -/
def afterHolds (stage : ModTapStage) : Nat → ModTapStage
  | 0 => stage
  | n + 1 => stage.settleFirst.1.afterHolds n

/-- The mod-tap of a key is pending after an odd number of holds. -/
def TapsLate (stage : ModTapStage) (key : Key) : Prop :=
  ∃ n, n % 2 = 1 ∧ ∃ pending ∈ (stage.afterHolds n).pending, pending.modTap.key = key

theorem tapsLate_iff {stage : ModTapStage} {key : Key} :
    TapsLate stage key ↔
      (∃ pending ∈ stage.settleFirst.1.pending, pending.modTap.key = key) ∨
        TapsLate stage.settleFirst.1.settleFirst.1 key := by
  constructor
  · rintro ⟨n, hodd, hpending⟩
    match n, hodd with
    | 1, _ => exact .inl hpending
    | n + 2, hodd => exact .inr ⟨n, by omega, hpending⟩
  · rintro (hpending | ⟨n, hodd, hpending⟩)
    · exact ⟨1, rfl, hpending⟩
    · exact ⟨n + 2, by omega, hpending⟩

variable {stage : ModTapStage} {queue : List KeyEvent} {key : Key} {modTap : ModTap}

/-- Holding the pending mod-tap settles the backlog further. -/
theorem settleFirst_settles (hb : Backlog stage queue) :
    stage.settleFirst.1.timers.term = stage.timers.term ∧ ∃ queue',
      Backlog stage.settleFirst.1 queue' ∧
        Settlement stage.timers.term False stage.held queue stage.settleFirst.2
          stage.settleFirst.1.held queue' ∧
        (queue ≠ [] → queue'.length < queue.length) := by
  cases hp : stage.pending with
  | none =>
    obtain ⟨rfl, -⟩ := hb.of_free hp
    rw [show stage.settleFirst = (stage, []) by simp [settleFirst, hp]]
    exact ⟨rfl, [], hb, .stop _ _, by simp⟩
  | some pending =>
    obtain ⟨press, rfl, -, hdown, hkey, -⟩ := hb.of_pending hp
    obtain ⟨hterm, queue', hb', hlater⟩ :=
      @run_settles False _ _ (hb.holding hp) (pending.buffer.map .route) [] False.elim
    rw [events_route, List.append_nil, List.append_nil, List.nil_append] at hlater
    rw [settleFirst_of_pending hp]
    -- as if the clock were read at the end of the term
    refine ⟨hterm, queue', hb', ?_, fun _ => ?_⟩
    · exact .hold hkey hdown (.inr ⟨press.time + stage.timers.term, by omega, False.elim⟩) hlater
    · exact Nat.lt_succ_of_le hlater.sublist.length_le

/-- The presses of a key in a backlog: at most one, from `start`, in order of time. -/
structure Awaits (key : Key) (start : Nat) (queue : List KeyEvent) : Prop where
  once : pressCount key queue ≤ 1
  since : ∀ event ∈ queue, event.stroke = .down key → event.time = start
  sorted : queue.Pairwise fun first second => first.time ≤ second.time

theorem Awaits.sublist {start : Nat} {queue' : List KeyEvent} (h : Awaits key start queue)
    (hs : queue'.Sublist queue) : Awaits key start queue' where
  once := Nat.le_trans (pressCount_le_of_sublist hs key) h.once
  since := fun event hmem => h.since event (hs.subset hmem)
  sorted := h.sorted.sublist hs

/-- The mod-tap that is pending has its press in the backlog. -/
theorem pressCount_pos_of_pending (hb : Backlog stage queue) {pending : PendingModTap}
    (hp : stage.pending = some pending) : 0 < pressCount pending.modTap.key queue := by
  obtain ⟨press, rfl, hown, hdown, -⟩ := hb.of_pending hp
  rw [pressCount_press hdown, if_pos hown]
  omega

/-- A press in the backlog that is not the pending one's waits behind it. -/
theorem down_mem_buffer (hb : Backlog stage queue) {pending : PendingModTap}
    (hp : stage.pending = some pending) (hother : pending.modTap.key ≠ key)
    (hin : 0 < pressCount key queue) : .down key ∈ pending.buffer.map KeyEvent.stroke := by
  obtain ⟨first, rfl, hfirst, hdown, -⟩ := hb.of_pending hp
  rw [pressCount_press hdown, if_neg (hfirst ▸ hother), Nat.add_zero] at hin
  exact List.count_pos_iff.mp hin

/-- A mod-tap that is not in the backlog never becomes pending. -/
theorem not_tapsLate (hb : Backlog stage queue) (hnone : pressCount key queue = 0) :
    ¬TapsLate stage key := by
  rintro ⟨n, -, pending, hp, rfl⟩
  induction n generalizing stage queue with
  | zero =>
    have := pressCount_pos_of_pending hb hp
    omega
  | succ n ih =>
    obtain ⟨-, queue', hb', hsettled, -⟩ := settleFirst_settles hb
    have hle := pressCount_le_of_sublist hsettled.sublist pending.modTap.key
    exact ih hb' hp (by omega)

/-- A release settles no press that is not in the backlog. -/
theorem run_not_settled (hb : Backlog stage queue) (hkey : ModTap.ofKey? key = some modTap)
    (hnone : pressCount key queue = 0) {tasks : List Task}
    (htasks : pressCount key (tasks.map Task.event) = 0) :
    ¬Holds modTap (stage.run tasks).2 ∧ ¬Taps modTap (stage.run tasks).2 := by
  obtain ⟨-, queue', -, hsettled⟩ := @run_settles False _ _ hb tasks [] False.elim
  refine hsettled.not_settled hkey ?_
  rw [pressCount_append, hnone, List.append_nil, htasks]
  omega

/-- While a press of the key waits that is past its term at `now`, so is the
pending mod-tap. -/
theorem expired_of_awaits (hb : Backlog stage queue) {start now : Nat}
    (hawaits : Awaits key start queue) (hin : 0 < pressCount key queue)
    (hterm : stage.timers.term ≤ now - start) :
    (stage.expired? now).isSome := by
  cases hp : stage.pending with
  | none =>
    obtain ⟨rfl, -⟩ := hb.of_free hp
    simp [pressCount] at hin
  | some pending =>
    obtain ⟨first, rfl, -⟩ := hb.of_pending hp
    -- the pending mod-tap went down no later than the key
    have hfirst : first.time ≤ start := by
      obtain ⟨press, hmem, hdown⟩ := List.mem_map.mp (List.count_pos_iff.mp hin)
      rw [← hawaits.since press hmem hdown]
      rcases List.mem_cons.mp hmem with rfl | hmem
      · exact Nat.le_refl _
      · exact (List.pairwise_cons.mp hawaits.sorted).1 press hmem
    have hpast := (hb.isPastTerm_iff hp now).mpr (by omega)
    rw [expired?_eq_some_iff.mpr ⟨hp, hpast⟩]
    rfl

/-- A release that completes a key behind the pending mod-tap has that held, and
meets the clock again. -/
theorem run_accept_nested {pending : PendingModTap} {release : KeyEvent}
    (hp : stage.pending = some pending) (hup : release.stroke = .up key)
    (hother : pending.modTap.key ≠ key)
    (hdown : .down key ∈ pending.buffer.map KeyEvent.stroke) :
    stage.run [.accept release] =
      ((stage.settleFirst.1.route release).1,
        stage.settleFirst.2 ++ (stage.settleFirst.1.route release).2) := by
  obtain ⟨hrelease, rfl⟩ := stroke_eq_up_iff.mp hup
  have hnested := isNested_iff.mpr ⟨isRelease_iff.mp hrelease, hdown⟩
  -- the release goes to the end of the buffer, and all of it is routed again
  have haccept : stage.accept release =
      stage.settleHold { pending with buffer := pending.buffer ++ [release] } := by
    have hown : ¬(release.isRelease && release.key == pending.modTap.key) = true := by
      simpa [hrelease] using Ne.symm hother
    simp only [accept, hp, acceptBehind, if_neg hown, if_pos hnested]
  rw [run_accept, haccept, settleFirst_of_pending hp]
  show (((stage.holding pending).run ((pending.buffer ++ [release]).map .route ++ [])).1,
    stage.holdOutput pending ::
      ((stage.holding pending).run ((pending.buffer ++ [release]).map .route ++ [])).2) = _
  rw [List.append_nil, List.map_append, run_append]
  rfl

/-- A release that finds the mod-tap pending makes it a tap, of its own press. -/
theorem taps_of_pending (hb : Backlog stage queue) (hkey : ModTap.ofKey? key = some modTap)
    {start : Nat} (hawaits : Awaits key start queue) {pending : PendingModTap}
    {release : KeyEvent} (hp : stage.pending = some pending)
    (hup : release.stroke = .up key) (hown : pending.modTap.key = key) :
    (∃ press up, .tap modTap press up ∈ (stage.run [.accept release]).2 ∧
      press.time = start ∧ up.time = release.time) ∧
      ¬Holds modTap (stage.run [.accept release]).2 := by
  obtain ⟨press, rfl, hsame, hdown, hofKey, -⟩ := hb.of_pending hp
  obtain rfl : pending.modTap = modTap := by
    rw [hsame, hown, hkey] at hofKey
    exact (Option.some.inj hofKey).symm
  have hstart : press.time = start :=
    hawaits.since press (by simp) (by rw [KeyEvent.stroke_of_press hdown, hsame, hown])
  -- the key went down only once, so nothing behind it is another press of it
  have hbuffer : pressCount key pending.buffer = 0 := by
    have := hawaits.once
    rw [pressCount_press hdown, if_pos (hsame.trans hown)] at this
    omega
  obtain ⟨hrelease, hrelkey⟩ := stroke_eq_up_iff.mp hup
  have haccept : stage.accept release = stage.settleTap pending release := by
    have hguard : (release.isRelease && release.key == pending.modTap.key) = true := by
      simp [hrelease, hrelkey, hown]
    simp only [accept, hp, acceptBehind, if_pos hguard]
  rw [run_accept, haccept, hb.settleTap hp (hrelkey.trans hown.symm)]
  have hlater := @run_not_settled _ [] key pending.modTap (hb.after_settleTap hp) hkey rfl
    (pending.buffer.map .route ++ [])
    (by rw [List.append_nil, events_route, hbuffer])
  refine ⟨⟨_, _, List.mem_append_left _ (List.mem_singleton_self _), hstart, rfl⟩, ?_⟩
  rw [holds_append, not_or]
  exact ⟨by simp [Holds], hlater.1⟩

/-- **A mod-tap that comes up after its whole term** while its press waits in the
backlog is held, unless it `TapsLate`. -/
theorem route_release (hb : Backlog stage queue) (hkey : ModTap.ofKey? key = some modTap)
    {start : Nat} (hawaits : Awaits key start queue) (hin : 0 < pressCount key queue)
    {release : KeyEvent} (hup : release.stroke = .up key)
    (hterm : stage.timers.term ≤ release.time - start) :
    HeldUnless (TapsLate stage key) modTap start release.time (stage.route release).2 := by
  induction hn : queue.length using Nat.strongRecOn generalizing stage queue with
  | ind n ih =>
    subst hn
    have hrelease : pressCount key [release] = 0 := by
      rw [pressCount_release (congrArg Stroke.action hup)]
      rfl
    -- the release has one mod-tap held before it is let in, and may have a second held
    obtain ⟨hterm₁, queue₁, hb₁, hsettled₁, -⟩ := settleFirst_settles hb
    obtain ⟨hterm₂, queue₂, hb₂, hsettled₂, hlt₂⟩ := settleFirst_settles hb₁
    have hle₁ := pressCount_le_of_sublist hsettled₁.sublist key
    have hle₂ := pressCount_le_of_sublist hsettled₂.sublist key
    have honce := hawaits.once
    have hawaits₁ := hawaits.sublist hsettled₁.sublist
    rw [route_of_expired (expired_of_awaits hb hawaits hin hterm), tapsLate_iff]
    by_cases hin₁ : pressCount key queue₁ = 0
    · -- the clock has the mod-tap held on its way
      refine heldUnless_of_holds ?_ (hsettled₁.holds_of_lost hkey hb.unnested (by omega))
        (run_not_settled hb₁ hkey hin₁ hrelease)
      rintro (⟨pending, hp, rfl⟩ | hlate)
      · exact absurd (pressCount_pos_of_pending hb₁ hp) (by omega)
      · exact not_tapsLate hb₂ (by omega) hlate
    refine HeldUnless.after ?_ (hsettled₁.not_settled hkey (by omega))
    cases hp : stage.settleFirst.1.pending with
    | none =>
      obtain ⟨rfl, -⟩ := hb₁.of_free hp
      exact absurd rfl hin₁
    | some pending =>
      by_cases hown : pending.modTap.key = key
      · -- the release finds the mod-tap pending
        have hlate := taps_of_pending hb₁ hkey hawaits₁ hp hup hown
        exact ⟨fun _ => hlate, fun hno => absurd (.inl ⟨pending, rfl, hown⟩) hno⟩
      · -- the release has another mod-tap held and meets the clock again
        have hdown := down_mem_buffer hb₁ hp hown (Nat.pos_of_ne_zero hin₁)
        have hiff : ((∃ pending' ∈ some pending, pending'.modTap.key = key) ∨
            TapsLate stage.settleFirst.1.settleFirst.1 key) ↔
              TapsLate stage.settleFirst.1.settleFirst.1 key := by
          simp [hown]
        rw [run_accept_nested hp hup hown hdown, hiff]
        by_cases hin₂ : pressCount key queue₂ = 0
        · exact heldUnless_of_holds (not_tapsLate hb₂ hin₂)
            (hsettled₂.holds_of_lost hkey hb₁.unnested (by omega))
            (run_not_settled hb₂ hkey hin₂ hrelease)
        · refine HeldUnless.after ?_ (hsettled₂.not_settled hkey (by omega))
          have hshorter : queue₂.length < queue.length :=
            Nat.lt_of_lt_of_le (hlt₂ fun h => hin₁ (h ▸ rfl)) hsettled₁.sublist.length_le
          exact ih _ hshorter hb₂ (hawaits₁.sublist hsettled₂.sublist) (Nat.pos_of_ne_zero hin₂)
            (by rwa [hterm₂, hterm₁]) rfl

end ModTapStage

end Keymap
