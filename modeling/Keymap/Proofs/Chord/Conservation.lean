import Keymap.Proofs.Chord.Firing

/-!
# The chord detector conserves events

A chord that fires takes the presses of its two keys out of the stream, and the
release that follows each of them, and puts the tap of its output in their place.
All else goes on as it came in, in the same order.

- `ChordDetector.Owes`: what is to be swallowed is the next up of each key of a
  chord that fired.
- `ChordDetector.Conserved`: the invariant. What went on and is held back is what
  came in without the places taken.
- `ChordDetector.Conserved.feed`, `ChordDetector.Conserved.signalAll`: every event
  keeps it, and so does every run.
- `ChordDetector.signalAll_conserves`: **the detector conserves events**.
-/

namespace Keymap

open Stroke

namespace ChordDetector

variable {detector : ChordDetector} {event : KeyEvent}

/-! ## What is to be swallowed -/

/-- A key of a chord that fired has not come up since. -/
def Owed (fired : List Firing) (past : List KeyEvent) (key : Key) : Prop :=
  ∃ firing ∈ fired, key ∈ firing.keys ∧ up key ∉ (KeyEvent.strokes past).drop firing.point

/-- What is to be swallowed after `past` has gone in and the chords in `fired` have
fired: the next up of each key of theirs that is still down. -/
structure Owes (detector : ChordDetector) (past : List KeyEvent) (fired : List Firing) : Prop where
  points : ∀ firing ∈ fired, firing.point ≤ past.length
  mem_swallowed : ∀ key, key ∈ detector.swallowed ↔ Owed fired past key
  nodup : detector.swallowed.Nodup
  down : ∀ key ∈ detector.swallowed, isDown key false (KeyEvent.strokes past) = true
  /-- A press that is held back belongs to no chord yet. -/
  held : ∀ press ∈ detector.held, press.key ∉ detector.swallowed ∧
    isDown press.key false (KeyEvent.strokes past) = true

variable {past kept : List KeyEvent} {fired : List Firing}

theorem isDown_concat (key : Key) (past : List KeyEvent) (event : KeyEvent) :
    isDown key false (KeyEvent.strokes (past ++ [event])) =
      if event.key = key then event.action == .press
      else isDown key false (KeyEvent.strokes past) := by
  rw [KeyEvent.strokes, List.map_append, isDown_append]
  rfl

/-- What is owed stays owed until its key comes up. -/
theorem owed_concat (hpoints : ∀ firing ∈ fired, firing.point ≤ past.length) (event : KeyEvent)
    (key : Key) :
    Owed fired (past ++ [event]) key ↔ Owed fired past key ∧ event.stroke ≠ up key := by
  have hdrop (firing : Firing) (hmem : firing ∈ fired) :
      (KeyEvent.strokes (past ++ [event])).drop firing.point =
        (KeyEvent.strokes past).drop firing.point ++ [event.stroke] := by
    rw [KeyEvent.strokes, List.map_append, List.drop_append_of_le_length]
    · rfl
    · simpa using hpoints firing hmem
  constructor
  · rintro ⟨firing, hmem, hkey, hfree⟩
    rw [hdrop firing hmem, List.mem_append, not_or] at hfree
    exact ⟨⟨firing, hmem, hkey, hfree.1⟩, fun hup => hfree.2 (by simp [hup])⟩
  · rintro ⟨⟨firing, hmem, hkey, hfree⟩, hup⟩
    refine ⟨firing, hmem, hkey, ?_⟩
    rw [hdrop firing hmem, List.mem_append, not_or]
    exact ⟨hfree, fun hmem => hup (List.mem_singleton.mp hmem).symm⟩

namespace Owes

theorem points_concat (h : Owes detector past fired) (event : KeyEvent) :
    ∀ firing ∈ fired, firing.point ≤ (past ++ [event]).length := by
  intro firing hmem
  have := h.points firing hmem
  simp only [List.length_append]
  omega

/-- Before a key goes down it is up, and so not to be swallowed. -/
theorem not_mem_swallowed (h : Owes detector past fired)
    (hup : isDown event.key false (KeyEvent.strokes past) = false) :
    event.key ∉ detector.swallowed := by
  intro hmem
  rw [h.down event.key hmem] at hup
  cases hup

/-- A release is swallowed. -/
theorem swallow (h : Owes detector past fired) (hup : event.action = .release)
    (hmem : event.key ∈ detector.swallowed) :
    Owes { detector with swallowed := detector.swallowed.erase event.key } (past ++ [event])
      fired where
  points := h.points_concat event
  mem_swallowed := by
    intro key
    rw [h.nodup.mem_erase_iff, owed_concat h.points, h.mem_swallowed key,
      KeyEvent.stroke_of_release hup, ne_eq, ne_eq, up_inj]
    constructor
    · rintro ⟨hne, howed⟩
      exact ⟨howed, fun heq => hne heq.symm⟩
    · rintro ⟨howed, hne⟩
      exact ⟨fun heq => hne heq.symm, howed⟩
  nodup := h.nodup.erase event.key
  down := by
    intro key hkey
    obtain ⟨hne, hold⟩ := h.nodup.mem_erase_iff.mp hkey
    rw [isDown_concat, if_neg fun heq => hne heq.symm]
    exact h.down key hold
  held := by
    intro press hpress
    obtain ⟨hfree, hdown⟩ := h.held press hpress
    refine ⟨fun hkey => hfree (List.mem_of_mem_erase hkey), ?_⟩
    -- what is swallowed is of another key than what is held back
    rw [isDown_concat, if_neg]
    · exact hdown
    · rintro heq
      exact hfree (heq ▸ hmem)

/-- An event goes on. -/
theorem pass (h : Owes detector past fired)
    (hfree : event.action = .release → event.key ∉ detector.swallowed) :
    Owes { detector with held := none } (past ++ [event]) fired where
  points := h.points_concat event
  mem_swallowed := by
    intro key
    rw [owed_concat h.points, ← h.mem_swallowed key]
    constructor
    · intro hkey
      refine ⟨hkey, fun hup => hfree (congrArg Stroke.action hup) ?_⟩
      rwa [show event.key = key from congrArg Stroke.key hup]
    · exact And.left
  nodup := h.nodup
  down := by
    intro key hkey
    rw [isDown_concat]
    split
    · next heq =>
      -- it is down again, for its release would have been swallowed
      cases haction : event.action with
      | press => rfl
      | release => exact absurd (heq ▸ hkey) (hfree haction)
    · exact h.down key hkey
  held := by simp

/-- A press goes on. -/
theorem pass_of_press (h : Owes detector past fired) (hdown : event.action = .press) :
    Owes { detector with held := none } (past ++ [event]) fired :=
  h.pass fun hrelease => by simp [hdown] at hrelease

/-- A press is held back. -/
theorem wait (h : Owes detector past fired) (hdown : event.action = .press)
    (hup : isDown event.key false (KeyEvent.strokes past) = false) :
    Owes { detector with held := some event } (past ++ [event]) fired := by
  have hpass := h.pass_of_press hdown
  refine ⟨hpass.points, hpass.mem_swallowed, hpass.nodup, hpass.down, fun press hpress => ?_⟩
  obtain rfl := Option.some.inj hpress
  refine ⟨h.not_mem_swallowed hup, ?_⟩
  rw [isDown_concat, if_pos rfl, hdown]
  rfl

/-- A chord fires. -/
theorem fire {press : KeyEvent} (chord : Chord) (h : Owes detector past fired)
    (hpress : detector.held = some press) (hdown : event.action = .press)
    (hup : isDown event.key false (KeyEvent.strokes past) = false) :
    Owes
      { detector with held := none, swallowed := detector.swallowed ++ [press.key, event.key] }
      (past ++ [event]) (fired ++ [⟨past.length + 1, press, event, chord⟩]) := by
  have hpass := h.pass_of_press hdown
  obtain ⟨hfree, hpressed⟩ := h.held press hpress
  have hne : press.key ≠ event.key := by
    intro heq
    rw [heq, hup] at hpressed
    cases hpressed
  constructor
  case points =>
    intro firing hmem
    rcases List.mem_append.mp hmem with hold | hnew
    · exact hpass.points firing hold
    · rw [List.mem_singleton.mp hnew]
      simp
  case mem_swallowed =>
    intro key
    rw [List.mem_append, hpass.mem_swallowed key]
    constructor
    · rintro (⟨firing, hmem, howed⟩ | hnew)
      · exact ⟨firing, List.mem_append_left _ hmem, howed⟩
      · refine ⟨_, List.mem_append_right _ (List.mem_singleton.mpr rfl), hnew, ?_⟩
        rw [List.drop_eq_nil_of_le (by simp)]
        simp
    · rintro ⟨firing, hmem, hkey, hsince⟩
      rcases List.mem_append.mp hmem with hold | hnew
      · exact .inl ⟨firing, hold, hkey, hsince⟩
      · rw [List.mem_singleton.mp hnew] at hkey
        exact .inr hkey
  case nodup =>
    refine List.nodup_append.mpr ⟨h.nodup, by simp [hne], fun key hkey other hnew => ?_⟩
    rintro rfl
    rcases List.mem_cons.mp hnew with rfl | hnew
    · exact hfree hkey
    · rw [List.mem_singleton.mp hnew] at hkey
      exact h.not_mem_swallowed hup hkey
  case down =>
    intro key hkey
    rcases List.mem_append.mp hkey with hold | hnew
    · exact hpass.down key hold
    · rw [isDown_concat]
      split
      · rw [hdown]
        rfl
      · next hother =>
        rcases List.mem_cons.mp hnew with rfl | hnew
        · exact hpressed
        · exact absurd (List.mem_singleton.mp hnew).symm hother
  case held => simp

end Owes

/-! ## What has gone on -/

/-- `press` is held back: only releases came in after it, and what has gone on is
what is left without it. -/
structure HeldBack (past : List KeyEvent) (fired : List Firing) (kept : List KeyEvent)
    (press : KeyEvent) (front back : List KeyEvent) : Prop where
  past_eq : past = front ++ press :: back
  down : press.action = .press
  releases : ∀ event ∈ back, event.action = .release
  kept_eq : kept =
    without (fun i => Taken fired (KeyEvent.strokes past) i ∨ i = front.length) past

/-- Of the keys of a chord that is completed now, the last downs are the held press
and the event. -/
theorem HeldBack.ends_iff {press : KeyEvent} {front back : List KeyEvent}
    (h : HeldBack past fired kept press front back) (hdown : event.action = .press)
    (hne : press.key ≠ event.key) {i : Nat} (hi : i < (past ++ [event]).length) :
    (∃ key ∈ [press.key, event.key],
        Ends (KeyEvent.strokes (past ++ [event])) key (past.length + 1) i) ↔
      i = front.length ∨ i = past.length := by
  have hi' : i < (KeyEvent.strokes (past ++ [event])).length := by simpa using hi
  have hlength : past.length + 1 = (KeyEvent.strokes (past ++ [event])).length := by simp
  have hfirst : KeyEvent.strokes (past ++ [event]) =
      KeyEvent.strokes front ++
        Stroke.down press.key :: (KeyEvent.strokes back ++ [event.stroke]) := by
    rw [h.past_eq]
    simp [KeyEvent.stroke_of_press h.down]
  have hsecond : KeyEvent.strokes (past ++ [event]) =
      KeyEvent.strokes past ++ Stroke.down event.key :: [] := by
    simp [KeyEvent.stroke_of_press hdown]
  have hback : Stroke.down press.key ∉ KeyEvent.strokes back ++ [event.stroke] := by
    intro hmem
    rcases List.mem_append.mp hmem with hmem | hmem
    · obtain ⟨release, hrelease, heq⟩ := List.mem_map.mp hmem
      have hpress : release.action = .press := congrArg Stroke.action heq
      simp [h.releases release hrelease] at hpress
    · rw [List.mem_singleton, KeyEvent.stroke_of_press hdown, down_inj] at hmem
      exact hne hmem
  rw [hlength]
  generalize KeyEvent.strokes (past ++ [event]) = strokes at hi' hfirst hsecond ⊢
  have hone : Ends strokes press.key strokes.length i ↔ i = front.length := by
    subst hfirst
    rw [ends_of_split hback hi', List.length_map]
  have hother : Ends strokes event.key strokes.length i ↔ i = past.length := by
    rw [hsecond] at hi' ⊢
    rw [ends_of_split (by simp) hi', List.length_map]
  simp [hone, hother]

/-- **The invariant**: after `past` has gone in, the chords in `fired` have fired and
`kept` has gone on beside their taps. -/
structure Conserved (detector : ChordDetector) (past : List KeyEvent) (fired : List Firing)
    (kept : List KeyEvent) : Prop where
  owes : Owes detector past fired
  kept_eq : kept ++ detector.held.toList = without (Taken fired (KeyEvent.strokes past)) past
  held : ∀ press ∈ detector.held, ∃ front back, HeldBack past fired kept press front back

theorem conserved_fresh (chords : List Chord) (term : Nat) :
    Conserved { chords := chords, term := term } [] [] [] where
  owes :=
    { points := by simp
      mem_swallowed := by simp [Owed]
      nodup := List.nodup_nil
      down := by simp
      held := by simp }
  kept_eq := rfl
  held := by simp

namespace Conserved

/-- The event that goes in next is taken if its release is to be swallowed. -/
theorem taken_next (h : Owes detector past fired) :
    Taken fired (KeyEvent.strokes (past ++ [event])) past.length ↔
      event.action = .release ∧ event.key ∈ detector.swallowed := by
  have hlast := @taken_last fired (KeyEvent.strokes past) event.stroke (by simpa using h.points)
  rw [KeyEvent.strokes, List.map_append, List.map_singleton]
  rw [List.length_map] at hlast
  rw [hlast]
  constructor
  · rintro ⟨firing, hmem, key, hkey, hup, hfree⟩
    obtain rfl : event.key = key := congrArg Stroke.key hup
    exact ⟨congrArg Stroke.action hup, (h.mem_swallowed _).mpr ⟨firing, hmem, hkey, hfree⟩⟩
  · rintro ⟨hup, hmem⟩
    obtain ⟨firing, hfired, hkey, hfree⟩ := (h.mem_swallowed event.key).mp hmem
    exact ⟨firing, hfired, event.key, hkey, KeyEvent.stroke_of_release hup, hfree⟩

/-- What went in before is taken as it was. -/
theorem taken_before (h : Owes detector past fired) (event : KeyEvent) {i : Nat}
    (hi : i < past.length) :
    Taken fired (KeyEvent.strokes (past ++ [event])) i ↔
      Taken fired (KeyEvent.strokes past) i := by
  rw [KeyEvent.strokes, List.map_append]
  exact taken_concat event.stroke (by simpa using h.points) (by simpa using hi)

/-- An event goes on or is held back: it is not taken. -/
theorem without_accept (h : Conserved detector past fired kept)
    (hfree : event.action = .release → event.key ∉ detector.swallowed) :
    without (Taken fired (KeyEvent.strokes (past ++ [event]))) (past ++ [event]) =
      kept ++ detector.held.toList ++ [event] := by
  rw [without_concat, without_congr fun i hi => taken_before h.owes event hi, ← h.kept_eq,
    if_neg]
  rintro htaken
  obtain ⟨hup, hmem⟩ := (taken_next h.owes).mp htaken
  exact hfree hup hmem

/-- A release is swallowed. -/
theorem swallow (h : Conserved detector past fired kept) (hup : event.action = .release)
    (hmem : event.key ∈ detector.swallowed) :
    Conserved { detector with swallowed := detector.swallowed.erase event.key }
      (past ++ [event]) fired kept := by
  have htaken := (taken_next h.owes).mpr ⟨hup, hmem⟩
  refine ⟨h.owes.swallow hup hmem, ?_, fun press hpress => ?_⟩
  · rw [without_concat, without_congr fun i hi => taken_before h.owes event hi, ← h.kept_eq,
      if_pos htaken, List.append_nil]
  · obtain ⟨front, back, hheld⟩ := h.held press hpress
    refine ⟨front, back ++ [event], ?_, hheld.down, ?_, ?_⟩
    · rw [hheld.past_eq, List.append_assoc, List.cons_append]
    · intro other hother
      rcases List.mem_append.mp hother with hold | hnew
      · exact hheld.releases other hold
      · rwa [List.mem_singleton.mp hnew]
    · rw [without_concat, if_pos (.inl htaken), List.append_nil, hheld.kept_eq]
      exact without_congr fun i hi => or_congr_left (taken_before h.owes event hi).symm

/-- A press is held back, and one that was held back before goes on. -/
theorem wait (h : Conserved detector past fired kept) (hdown : event.action = .press)
    (hup : isDown event.key false (KeyEvent.strokes past) = false) :
    Conserved { detector with held := some event } (past ++ [event]) fired
      (kept ++ detector.held.toList) := by
  refine ⟨h.owes.wait hdown hup, ?_, fun press hpress => ?_⟩
  · rw [h.without_accept fun hrelease => by simp [hdown] at hrelease]
    rfl
  · obtain rfl := Option.some.inj hpress
    refine ⟨past, [], rfl, hdown, by simp, ?_⟩
    -- without the press is left what was left before it
    rw [without_concat, if_pos (.inr rfl), List.append_nil, h.kept_eq]
    refine without_congr fun i hi => ?_
    rw [taken_before h.owes event hi, or_iff_left (Nat.ne_of_lt hi)]

/-- An event goes on, behind a press that was held back. -/
theorem pass (h : Conserved detector past fired kept)
    (hfree : event.action = .release → event.key ∉ detector.swallowed) :
    Conserved { detector with held := none } (past ++ [event]) fired
      (kept ++ (detector.held.toList ++ [event])) := by
  refine ⟨h.owes.pass hfree, ?_, by simp⟩
  rw [h.without_accept hfree, Option.toList_none, List.append_nil, List.append_assoc]

/-- A chord fires: the held press and the event are taken. -/
theorem fire {press : KeyEvent} (chord : Chord) (h : Conserved detector past fired kept)
    (hpress : detector.held = some press) (hdown : event.action = .press)
    (hup : isDown event.key false (KeyEvent.strokes past) = false) :
    Conserved
      { detector with held := none, swallowed := detector.swallowed ++ [press.key, event.key] }
      (past ++ [event]) (fired ++ [⟨past.length + 1, press, event, chord⟩]) kept := by
  obtain ⟨front, back, hheld⟩ := h.held press hpress
  have hne : press.key ≠ event.key := by
    intro heq
    rw [← heq, (h.owes.held press hpress).2] at hup
    cases hup
  have htaken {i : Nat} (hi : i < (past ++ [event]).length) :
      Taken (fired ++ [⟨past.length + 1, press, event, chord⟩])
          (KeyEvent.strokes (past ++ [event])) i ↔
        Taken fired (KeyEvent.strokes (past ++ [event])) i ∨ i = front.length ∨ i = past.length :=
    (taken_append _ i).trans (or_congr_right (hheld.ends_iff hdown hne hi))
  refine ⟨h.owes.fire chord hpress hdown hup, ?_, by simp⟩
  rw [Option.toList_none, List.append_nil, without_concat, if_pos, List.append_nil, hheld.kept_eq]
  · refine without_congr fun i hi => ?_
    rw [htaken (Nat.lt_of_lt_of_le hi (by simp)), taken_before h.owes event hi,
      or_iff_left (Nat.ne_of_lt hi)]
  · exact (htaken (by simp)).mpr (.inr (.inr rfl))

/-- The clock lets a press go on. -/
theorem flush {press : KeyEvent} (h : Conserved detector past fired kept)
    (hpress : detector.held = some press) :
    Conserved { detector with held := none } past fired (kept ++ [press]) := by
  refine ⟨⟨h.owes.points, h.owes.mem_swallowed, h.owes.nodup, h.owes.down, by simp⟩, ?_, by simp⟩
  rw [← h.kept_eq, hpress]
  exact List.append_nil _

/-- What an event leads to. -/
theorem feed (h : Conserved detector past fired kept) (event : KeyEvent)
    (hup : event.action = .press → isDown event.key false (KeyEvent.strokes past) = false) :
    let firing? := detector.firing? (past.length + 1) (.event event)
    Conserved (detector.feed event).1 (past ++ [event]) (fired ++ firing?.toList)
      (kept ++ if firing?.isNone then (detector.feed event).2 else []) := by
  have hnone (hnone : ∀ press ∈ detector.held, detector.fires? press event = none) :
      detector.firing? (past.length + 1) (.event event) = none := by
    simp only [firing?, Option.bind_eq_bind, Option.bind_eq_none_iff]
    intro press hpress
    simp [hnone press hpress]
  have hfed := detector.fed_feed event
  generalize (detector.feed event).1 = next, (detector.feed event).2 = outs at hfed ⊢
  cases hfed with
  | swallow hrelease hmem =>
    have hfiring : detector.firing? (past.length + 1) (.event event) = none :=
      hnone fun press _ => by simp [fires?, KeyEvent.isPress, hrelease]
    simpa [hfiring] using h.swallow hrelease hmem
  | wait hdown hfires =>
    simpa [hnone hfires] using h.wait hdown (hup hdown)
  | pass hfree hfires =>
    simpa [hnone hfires] using h.pass hfree
  | @fire press chord hheld hdown hfires =>
    have hfiring : detector.firing? (past.length + 1) (.event event) =
        some ⟨past.length + 1, press, event, chord⟩ := by
      simp [firing?, hheld, hfires]
    simpa [hfiring] using h.fire chord hheld hdown (hup hdown)

/-- What a call leads to. -/
theorem signal (h : Conserved detector past fired kept) (call : Call)
    (hup : ∀ event, call = .event event → event.action = .press →
      isDown event.key false (KeyEvent.strokes past) = false) :
    let firing? := detector.firing? (past.length + (Call.events [call]).length) call
    Conserved (detector.signal call).1 (past ++ Call.events [call]) (fired ++ firing?.toList)
      (kept ++ if firing?.isNone then Signal.events (detector.signal call).2 else []) := by
  cases call with
  | event event => simpa [ChordDetector.signal] using h.feed event (hup event rfl)
  | tick now =>
    simp only [firing?, ChordDetector.signal, ChordDetector.tick]
    split
    · next press hheld =>
      split
      · simpa using h.flush hheld
      · simpa using h
    · simpa using h
  | layer layer => simpa [ChordDetector.signal, firing?] using h
  | capsWord active => simpa [ChordDetector.signal, firing?] using h

end Conserved

/-! ## Runs -/

/-- What goes on beside the taps of chords. -/
def goneOn (emissions : List (Option Firing × List KeyEvent)) : List KeyEvent :=
  (emissions.filter fun emission => emission.1.isNone).flatMap Prod.snd

theorem goneOn_cons (emission : Option Firing × List KeyEvent)
    (rest : List (Option Firing × List KeyEvent)) :
    goneOn (emission :: rest) = (if emission.1.isNone then emission.2 else []) ++ goneOn rest := by
  rw [goneOn, List.filter_cons]
  split
  · rfl
  · rfl

/-- **Every run keeps the invariant** if what goes in alternates. -/
theorem Conserved.signalAll (h : Conserved detector past fired kept) (calls : List Call)
    (alternates : Alternates (KeyEvent.strokes past ++ Call.strokes calls)) :
    Conserved (detector.signalAll calls).1 (past ++ Call.events calls)
      (fired ++ (detector.emissions past.length calls).filterMap Prod.fst)
      (kept ++ goneOn (detector.emissions past.length calls)) := by
  induction calls generalizing detector past fired kept with
  | nil => simpa [ChordDetector.signalAll, emissions, goneOn] using h
  | cons call rest ih =>
    have hup : ∀ event, call = .event event → event.action = .press →
        isDown event.key false (KeyEvent.strokes past) = false := by
      rintro event rfl hdown
      rw [Call.strokes_event, KeyEvent.stroke_of_press hdown] at alternates
      exact alternates.isDown_before
    have hcall := h.signal call hup
    have hlength : (past ++ Call.events [call]).length =
        past.length + (Call.events [call]).length := List.length_append
    have hrest := ih hcall (by
      rw [Call.strokes_cons, ← List.append_assoc] at alternates
      rwa [KeyEvent.strokes, List.map_append])
    rw [hlength, List.append_assoc, ← Call.events_cons, List.append_assoc, List.append_assoc]
      at hrest
    rw [emissions, goneOn_cons]
    simp only [ChordDetector.signalAll]
    rw [List.filterMap_cons]
    cases hfiring : detector.firing? (past.length + (Call.events [call]).length) call with
    | none => simpa [hfiring] using hrest
    | some firing => simpa [hfiring] using hrest

/-- The run gives what it gives call by call. -/
theorem emissions_snd (detector : ChordDetector) (fed : Nat) (calls : List Call) :
    (detector.emissions fed calls).flatMap Prod.snd =
      Signal.events (detector.signalAll calls).2 := by
  induction calls generalizing detector fed with
  | nil => rfl
  | cons call rest ih =>
    simp only [emissions, List.flatMap_cons, ih, ChordDetector.signalAll, Signal.events_append]

/-- Where a chord fires, its tap is given. -/
theorem emissions_tap {fed : Nat} {calls : List Call} {firing : Firing} {out : List KeyEvent}
    (h : (some firing, out) ∈ detector.emissions fed calls) : out = firing.tap := by
  induction calls generalizing detector fed with
  | nil => cases h
  | cons call rest ih =>
    rcases List.mem_cons.mp h with hfirst | hrest
    · obtain ⟨hfiring, rfl⟩ := Prod.mk.inj hfirst
      exact emitted_of_firing? hfiring.symm
    · exact ih hrest

/-- **The detector conserves events.** What goes on, less the taps of the chords
that fire, and the press that is held back in the end are what came in, in order,
less the places that the chords have taken: their two presses and the next release
of each of their keys. At every point of the run a chord fires exactly when the
event completes it, and what is to be swallowed is a set of keys that are down. -/
theorem signalAll_conserves (chords : List Chord) (term : Nat) {calls : List Call}
    (alternates : Alternates (Call.strokes calls)) :
    let detector : ChordDetector := { chords := chords, term := term }
    let emissions := detector.emissions 0 calls
    emissions.flatMap Prod.snd = Signal.events (detector.signalAll calls).2 ∧
    (∀ firing out, (some firing, out) ∈ emissions → out = firing.tap) ∧
    goneOn emissions ++ (detector.signalAll calls).1.held.toList =
      without (Taken (emissions.filterMap Prod.fst) (Call.strokes calls)) (Call.events calls) ∧
    ∀ front, front <+: calls →
      let now := (detector.signalAll front).1
      (∀ press event output, Fires now press event output ↔
        ∃ chord, Completes now press event chord ∧ chord.output = output) ∧
      (∀ fed event firing, now.firing? fed (.event event) = some firing ↔
        firing.point = fed ∧ firing.event = event ∧
          Completes now firing.held event firing.chord) ∧
      now.swallowed.Nodup ∧
      ∀ key ∈ now.swallowed, isDown key false (Call.strokes front) = true := by
  intro detector emissions
  have hconserved (front : List Call) (hfront : Alternates (Call.strokes front)) :=
    (conserved_fresh chords term).signalAll front hfront
  refine ⟨emissions_snd _ _ calls, fun firing out => emissions_tap, ?_, ?_⟩
  · exact (hconserved calls alternates).kept_eq
  · rintro front ⟨back, rfl⟩
    -- the strokes of the front alternate as those of the whole run do
    rw [Call.strokes_append] at alternates
    have hfront := alternates.of_prefix (List.prefix_append _ _)
    have howes := (hconserved front hfront).owes
    exact ⟨fun press event output => fires_iff, fun fed event firing => firing?_eq_some_iff,
      howes.nodup, howes.down⟩

/-- The chord of L and M takes both of their presses and the release of L. M is still
down, and the second press of L is held back. -/
theorem signalAll_conserves_open_chord :
    let detector : ChordDetector := { chords := [⟨.l, .m, .tab⟩], term := 50 }
    let calls : List Call :=
      [.event (.press .l ∅ 0), .event (.press .m ∅ 20), .event (.press .a ∅ 40),
        .event (.release .l ∅ 60), .event (.press .t ∅ 70), .event (.release .a ∅ 80),
        .event (.press .l ∅ 90)]
    Alternates (Call.strokes calls) ∧
      goneOn (detector.emissions 0 calls) ++ (detector.signalAll calls).1.held.toList =
        [.press .a ∅ 40, .press .t ∅ 70, .release .a ∅ 80, .press .l ∅ 90] :=
  ⟨by decide, (signalAll_conserves _ _ (by decide)).2.2.1.trans (by decide)⟩

end ChordDetector

end Keymap
