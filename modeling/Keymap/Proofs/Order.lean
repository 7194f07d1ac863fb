import Keymap.Proofs.Host
import Keymap.Proofs.Reachable

/-!
# Events keep their order

The mod-tap stage delays events, replays them and makes up the strokes of taps.
Of the events of ordinary keys it loses none, it repeats none and it changes the
order of none, however its replays are nested.

- `ordinary`: the events of keys that are not mod-taps.
- `StageOutput.handed`, `StageOutput.passed`: the events that go to the typist,
  with and without those that the stage makes up.
- `Settlement.passed_ordinary`: what has passed and what is left is what there was.
- `Settlement.handed_keys`: the keys that the typist is handed.
- `Engine.replies`: what a run settles, each thing with what the host is sent for
  it.
- `Engine.callAll_keeps_order`: **the typist is handed the ordinary events in
  order**, and the host is sent the strokes of what the typist is handed.
-/

namespace Keymap

/-- What happened to which key, and when. -/
def KeyEvent.timedStroke (event : KeyEvent) : Stroke × Nat :=
  (event.stroke, event.time)

/-- The events of keys that are not mod-taps. -/
def ordinary (events : List KeyEvent) : List KeyEvent :=
  events.filter fun event => (ModTap.ofKey? event.key).isNone

@[simp] theorem ordinary_append (front back : List KeyEvent) :
    ordinary (front ++ back) = ordinary front ++ ordinary back :=
  List.filter_append front back

theorem ordinary_cons_of_none {event : KeyEvent} (hkey : ModTap.ofKey? event.key = none)
    (rest : List KeyEvent) : ordinary (event :: rest) = event :: ordinary rest :=
  List.filter_cons_of_pos (by simp [hkey])

theorem ordinary_cons_of_some {event : KeyEvent} {modTap : ModTap}
    (hkey : ModTap.ofKey? event.key = some modTap) (rest : List KeyEvent) :
    ordinary (event :: rest) = ordinary rest :=
  List.filter_cons_of_neg (by simp [hkey])

namespace StageOutput

/-- The events that the typist is handed for what leaves the stage. -/
def handed : StageOutput → List KeyEvent
  | .pass event => [event]
  | .tap _ press release => [press, release]
  | .hold _ _ | .lift _ _ => []

/-- Those of them that were taken in: the strokes of a tap are made up. -/
def passed : StageOutput → List KeyEvent
  | .pass event => [event]
  | .tap _ _ _ | .hold _ _ | .lift _ _ => []

/-- Whether what leaves the stage is for the typist. -/
def isHanded : StageOutput → Bool
  | .pass _ | .tap _ _ _ => true
  | .hold _ _ | .lift _ _ => false

/-- What the host is told of the modifier of a mod-tap. -/
def told : StageOutput → List Output
  | .hold modTap true => [.forward modTap.modifier.key .press ∅]
  | .lift modTap true => [.forward modTap.modifier.key .release ∅]
  | .hold _ false | .lift _ false | .pass _ | .tap _ _ _ => []

end StageOutput

/-! ## The mod-tap stage -/

/-- **What has passed and what is left is what there was**, in the same order. -/
theorem Settlement.passed_ordinary {term : Nat} {ordered : Prop} {held held' : List ModTap}
    {events left : List KeyEvent} {outputs : List StageOutput}
    (h : Settlement term ordered held events outputs held' left) :
    (outputs.flatMap StageOutput.passed ++ ordinary left).map KeyEvent.timedStroke =
      (ordinary events).map KeyEvent.timedStroke := by
  induction h with
  | stop held events => rfl
  | @pass held event rest outputs held' left hkey _ ih =>
    -- an event that passes has modifiers added, and nothing else
    rw [ordinary_cons_of_none hkey, List.map_cons, ← ih]
    rfl
  | @lift held event rest outputs held' left modTap hkey hup hheld _ ih =>
    rw [ordinary_cons_of_some hkey, ← ih]
    rfl
  | @stray held event rest outputs held' left modTap hkey hup hheld _ ih =>
    rw [ordinary_cons_of_some hkey, ← ih]
  | @hold held press rest outputs held' left modTap hkey hdown why _ ih =>
    rw [ordinary_cons_of_some hkey, ← ih]
    rfl
  | @tap held press front release back outputs held' left modTap hkey hdown hup hfirst hfree _ ih =>
    -- the tap takes both strokes of the mod-tap out of the stream
    have hrelease : ModTap.ofKey? release.key = some modTap := by
      rw [show release.key = press.key from congrArg Stroke.key hup, hkey]
    rw [ordinary_cons_of_some hkey, ordinary_append, ordinary_cons_of_some hrelease,
      ← ordinary_append, ← ih]
    rfl

/-- **The typist is handed only keys that came in**, and the tap keys of mod-taps. -/
theorem Settlement.handed_keys {p : Key → Prop}
    (htap : ∀ {key modTap}, ModTap.ofKey? key = some modTap → p modTap.tap)
    {term : Nat} {ordered : Prop} {held held' : List ModTap} {events left : List KeyEvent}
    {outputs : List StageOutput} (h : Settlement term ordered held events outputs held' left)
    (hevents : ∀ event ∈ events, p event.key) :
    ∀ event ∈ outputs.flatMap StageOutput.handed, p event.key := by
  induction h with
  | stop held events => simp
  | @pass held event rest outputs held' left hkey _ ih =>
    obtain ⟨hevent, hrest⟩ := List.forall_mem_cons.mp hevents
    exact List.forall_mem_cons.mpr ⟨hevent, ih hrest⟩
  | @lift held event rest outputs held' left modTap hkey hup hheld _ ih =>
    exact ih (List.forall_mem_cons.mp hevents).2
  | @stray held event rest outputs held' left modTap hkey hup hheld _ ih =>
    exact ih (List.forall_mem_cons.mp hevents).2
  | @hold held press rest outputs held' left modTap hkey hdown why _ ih =>
    exact ih (List.forall_mem_cons.mp hevents).2
  | @tap held press front release back outputs held' left modTap hkey hdown hup hfirst hfree _ ih =>
    obtain ⟨hfront, hback⟩ := List.forall_mem_append.mp (List.forall_mem_cons.mp hevents).2
    have hrest := List.forall_mem_append.mpr ⟨hfront, (List.forall_mem_cons.mp hback).2⟩
    exact List.forall_mem_cons.mpr
      ⟨htap hkey, List.forall_mem_cons.mpr ⟨htap hkey, ih hrest⟩⟩

namespace ModTapStage

/-- The events that wait behind the pending mod-tap. -/
def buffered (stage : ModTapStage) : List KeyEvent :=
  (stage.pending.map PendingModTap.buffer).getD []

/-- Of the backlog, only the press of the pending mod-tap is not buffered. -/
theorem Backlog.ordinary_eq {stage : ModTapStage} {queue : List KeyEvent}
    (h : Backlog stage queue) : ordinary queue = ordinary stage.buffered := by
  cases hp : stage.pending with
  | none =>
    rw [(h.of_free hp).1, buffered, hp]
    rfl
  | some pending =>
    obtain ⟨press, rfl, -, -, hkey, -⟩ := h.of_pending hp
    rw [ordinary_cons_of_some hkey, buffered, hp]
    rfl

end ModTapStage

/-! ## The typist -/

/-- Plain keys are those that are known outside the keymap. -/
theorem Key.isPlain_eq_not_isSynthetic (key : Key) : key.isPlain = !key.isSynthetic := by
  cases key <;> rfl

theorem Key.not_isSynthetic_of_plain {key : Key} (h : key.role = .plain) :
    key.isSynthetic = false := by
  have hplain : key.isPlain = true := by
    unfold isPlain
    rw [h]
  rw [key.isPlain_eq_not_isSynthetic] at hplain
  simpa using hplain

namespace Engine

/-- What leaves the mod-tap stage, each thing with what the typist sends for it. -/
def settleEach (typist : Typist) : List StageOutput → List (StageOutput × List Output)
  | [] => []
  | output :: rest =>
    (output, (settle typist output).2.outputs) :: settleEach (settle typist output).1 rest

/-- What a run settles, each thing with what the host is sent for it. -/
def replies (engine : Engine) : List Call → List (StageOutput × List Output)
  | [] => []
  | call :: rest =>
    settleEach engine.typist (engine.settled [call]) ++ (engine.call call).1.replies rest

theorem settleEach_fst (typist : Typist) (outputs : List StageOutput) :
    (settleEach typist outputs).map Prod.fst = outputs := by
  induction outputs generalizing typist with
  | nil => rfl
  | cons output rest ih => rw [settleEach, List.map_cons, ih]

theorem settleEach_snd (typist : Typist) (outputs : List StageOutput) :
    (settleEach typist outputs).flatMap Prod.snd = (settleAll typist outputs).2.outputs := by
  induction outputs generalizing typist with
  | nil => rfl
  | cons output rest ih =>
    rw [settleEach, List.flatMap_cons, ih]
    rfl

/-- What is settled is replied to, in order. -/
theorem replies_fst (engine : Engine) (calls : List Call) :
    (engine.replies calls).map Prod.fst = engine.settled calls := by
  induction calls generalizing engine with
  | nil => rfl
  | cons call rest ih =>
    have hsplit := engine.settled_append [call] rest
    rw [replies, List.map_append, settleEach_fst, ih]
    exact hsplit.symm

/-- The host is sent the replies and nothing else. -/
theorem replies_snd (engine : Engine) (calls : List Call) :
    (engine.replies calls).flatMap Prod.snd = (engine.callAll calls).2.outputs := by
  induction calls generalizing engine with
  | nil => rfl
  | cons call rest ih =>
    have hcall : (settleEach engine.typist (engine.settled [call])).flatMap Prod.snd =
        (engine.call call).2.outputs := by
      rw [settleEach_snd, settled_cons]
      cases htime : call.time? with
      | none =>
        obtain ⟨houtputs, -, hsignals⟩ := engine.call_untimed call htime
        rw [houtputs, hsignals]
        rfl
      | some now =>
        have htyped := engine.call_typist call (by simp [htime])
        rw [show (engine.call call).1.settled [] = [] from rfl, List.append_nil, ← htyped]
    rw [replies, List.flatMap_append, hcall, ih, callAll_cons]
    rfl

/-- A reply is what some typist sends for what is settled. -/
def IsReply (reply : StageOutput × List Output) : Prop :=
  ∃ typist, reply.2 = (settle typist reply.1).2.outputs

theorem isReply_of_mem_replies {engine : Engine} {calls : List Call} :
    ∀ reply ∈ engine.replies calls, IsReply reply := by
  have heach (typist : Typist) (outputs : List StageOutput) :
      ∀ reply ∈ settleEach typist outputs, IsReply reply := by
    induction outputs generalizing typist with
    | nil => simp [settleEach]
    | cons output rest ih =>
      intro reply hmem
      rcases List.mem_cons.mp hmem with rfl | hrest
      · exact ⟨typist, rfl⟩
      · exact ih _ reply hrest
  induction calls generalizing engine with
  | nil => simp [replies]
  | cons call rest ih =>
    intro reply hmem
    rcases List.mem_append.mp hmem with hfirst | hrest
    · exact heach _ _ reply hfirst
    · exact ih reply hrest

/-- For what the typist is handed, the host is sent the strokes of plain keys. -/
theorem settle_handed (typist : Typist) {output : StageOutput} (h : output.isHanded = true) :
    (settle typist output).2.outputs.filterMap Output.stroke? =
      (output.handed.filter fun event => !event.key.isSynthetic).map KeyEvent.stroke := by
  have hstrokes : output.strokes = output.handed.map KeyEvent.stroke := by
    cases output with
    | pass event => rfl
    | tap modTap press release => rfl
    | hold modTap first => simp [StageOutput.isHanded] at h
    | lift modTap last => simp [StageOutput.isHanded] at h
  rw [settle_forwards, hstrokes, List.filter_map]
  refine congrArg _ (List.filter_congr fun event _ => ?_)
  exact event.key.isPlain_eq_not_isSynthetic

/-- What is handed is forwarded, if its key is known to the host. -/
theorem forwards_handed {replies : List (StageOutput × List Output)}
    (h : ∀ reply ∈ replies, IsReply reply) :
    ((replies.filter fun reply => reply.1.isHanded).flatMap Prod.snd).filterMap
        Output.stroke? =
      (((replies.map Prod.fst).flatMap StageOutput.handed).filter
        fun event => !event.key.isSynthetic).map KeyEvent.stroke := by
  induction replies with
  | nil => rfl
  | cons reply rest ih =>
    obtain ⟨typist, hreply⟩ := h reply (by simp)
    have hrest := ih fun other hmem => h other (by simp [hmem])
    rw [List.map_cons, List.flatMap_cons, List.filter_append, List.map_append, ← hrest]
    obtain ⟨output, outputs⟩ := reply
    cases output with
    | pass event =>
      rw [← settle_handed typist rfl, ← hreply, ← List.filterMap_append]
      rfl
    | tap modTap press release =>
      rw [← settle_handed typist rfl, ← hreply, ← List.filterMap_append]
      rfl
    | hold modTap first => rfl
    | lift modTap last => rfl

/-- What is not handed is told. -/
theorem told_not_handed {replies : List (StageOutput × List Output)}
    (h : ∀ reply ∈ replies, IsReply reply) :
    (replies.filter fun reply => !reply.1.isHanded).flatMap Prod.snd =
      (replies.map Prod.fst).flatMap StageOutput.told := by
  induction replies with
  | nil => rfl
  | cons reply rest ih =>
    obtain ⟨typist, hreply⟩ := h reply (by simp)
    have hrest := ih fun other hmem => h other (by simp [hmem])
    rw [List.map_cons, List.flatMap_cons, ← hrest]
    obtain ⟨output, outputs⟩ := reply
    cases output with
    | pass event => rfl
    | tap modTap press release => rfl
    | hold modTap first =>
      rw [List.filter_cons_of_pos rfl, List.flatMap_cons, hreply]
      cases first <;> rfl
    | lift modTap last =>
      rw [List.filter_cons_of_pos rfl, List.flatMap_cons, hreply]
      cases last <;> rfl

/-- **The typist is handed the ordinary events in order.** What it was handed,
less the strokes made up for taps, and what is buffered is what left the chord
detector: no event is lost, repeated or moved, and none has another key, action
or time. The host is sent the strokes of what the typist was handed, if their
keys are known to it, and else only the modifiers of mod-taps. -/
theorem callAll_keeps_order (settings : EngineSettings) (calls : List Call) :
    let run := (new settings).callAll calls
    let settled := (new settings).settled calls
    let replies := (new settings).replies calls
    (settled.flatMap StageOutput.passed ++ ordinary run.1.modTaps.buffered).map
        KeyEvent.timedStroke =
      (ordinary (Signal.events ((new settings).chords.signalAll calls).2)).map
        KeyEvent.timedStroke ∧
    replies.map Prod.fst = settled ∧
    replies.flatMap Prod.snd = run.2.outputs ∧
    ((replies.filter fun reply => reply.1.isHanded).flatMap Prod.snd).filterMap
        Output.stroke? =
      ((settled.flatMap StageOutput.handed).filter
        fun event => !event.key.isSynthetic).map KeyEvent.stroke ∧
    (replies.filter fun reply => !reply.1.isHanded).flatMap Prod.snd =
      settled.flatMap StageOutput.told := by
  intro run settled replies
  obtain ⟨queue, hb, hsettled⟩ := new_settles settings calls False.elim
  have hreplies := @isReply_of_mem_replies (new settings) calls
  have hfst : replies.map Prod.fst = settled := replies_fst _ calls
  refine ⟨?_, hfst, replies_snd _ calls, ?_, ?_⟩
  · rw [← hb.ordinary_eq]
    exact hsettled.passed_ordinary
  · rw [← hfst]
    exact forwards_handed hreplies
  · rw [← hfst]
    exact told_not_handed hreplies

end Engine

end Keymap
