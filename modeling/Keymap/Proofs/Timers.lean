import Keymap.HoldTimer

/-!
# Each key has a timer of its own

Whatever is asked of the timers, in whichever order, what is asked about one key is
answered as if no other key were there.

- `HoldTimers.Call`, `HoldTimers.Reply`: what can be asked, and the answers.
- `HoldTimers.after`, `HoldTimers.replies`: a run of calls.
- `HoldTimers.get?_answer`: what a call makes of the record of a key.
- `HoldTimers.AgreesAt.run`: timers that agree at a key answer alike about it, though calls
  that name other keys are left out of one of the runs.
- `HoldTimers.get?_after_eq_some_iff`: the record of a key is that of its latest press, if
  the key has not been released or taken since.
- `HoldTimers.replies_per_key`: **the keys do not see each other, a release is a tap exactly
  if the latest press was less than the term ago, and the two deadlines agree**.
-/

namespace Keymap.HoldTimers

/-- A call to the timers. -/
inductive Call where
  | press (key : Key) (record : PressRecord)
  | release (key : Key) (now : Nat)
  | isPastTerm (key : Key) (now : Nat)
  | take (key : Key)
  deriving DecidableEq

/-- What a call is answered. -/
inductive Reply where
  | pressed
  | released (meaning : TapHold) (record? : Option PressRecord)
  | pastTerm (past : Bool)
  | taken (record? : Option PressRecord)
  deriving DecidableEq

namespace Call

/-- The key that a call names. -/
def key : Call → Key
  | press key _ | release key _ | isPastTerm key _ | take key => key

/-- Whether a call sets or clears the record of a key. -/
def sets (key : Key) : Call → Bool
  | press named _ | release named _ | take named => named == key
  | isPastTerm _ _ => false

/-- The record that a call leaves behind. -/
def record? : Call → Option PressRecord
  | press _ record => some record
  | release _ _ | isPastTerm _ _ | take _ => none

theorem sets_of_ne {call : Call} {key : Key} (h : call.key ≠ key) : call.sets key = false := by
  cases call with
  | press named record => exact beq_false_of_ne h
  | release named now => exact beq_false_of_ne h
  | isPastTerm named now => rfl
  | take named => exact beq_false_of_ne h

end Call

/-- The timers after a call, and its answer. -/
def answer (timers : HoldTimers) : Call → HoldTimers × Reply
  | .press key record => (timers.press key record, .pressed)
  | .release key now =>
    let (next, meaning, record?) := timers.release key now
    (next, .released meaning record?)
  | .isPastTerm key now => (timers, .pastTerm (timers.isPastTerm key now))
  | .take key =>
    let (next, record?) := timers.take key
    (next, .taken record?)

/-- The timers after some calls. -/
def after (timers : HoldTimers) (calls : List Call) : HoldTimers :=
  calls.foldl (fun timers call => (timers.answer call).1) timers

/-- The answers to some calls in order, each with the key that was asked about. -/
def replies (timers : HoldTimers) : List Call → List (Key × Reply)
  | [] => []
  | call :: rest => (call.key, (timers.answer call).2) :: (timers.answer call).1.replies rest

variable {timers other : HoldTimers} {key : Key}

/-! ## One call -/

theorem answer_term (timers : HoldTimers) (call : Call) :
    (timers.answer call).1.term = timers.term := by
  cases call with
  | press key record => rfl
  | release key now => rfl
  | isPastTerm key now => rfl
  | take key => rfl

/-- What a call makes of the record of a key. -/
theorem get?_answer (timers : HoldTimers) (call : Call) (key : Key) :
    (timers.answer call).1.get? key =
      if call.sets key then call.record? else timers.get? key := by
  have hforget (named : Key) :
      (timers.forget named).get? key = if named == key then none else timers.get? key := by
    by_cases h : named = key
    · rw [if_pos (beq_iff_eq.mpr h), h, get?_forget_self]
    · rw [if_neg (mt beq_iff_eq.mp h), get?_forget_of_ne timers (Ne.symm h)]
  cases call with
  | press named record =>
    show (timers.press named record).get? key = if named == key then some record else _
    by_cases h : named = key
    · rw [if_pos (beq_iff_eq.mpr h), h, get?_press_self]
    · rw [if_neg (mt beq_iff_eq.mp h), get?_press_of_ne timers record (Ne.symm h)]
  | release named now => exact hforget named
  | isPastTerm named now => rfl
  | take named => exact hforget named

theorem release_eq_tap_iff {now : Nat} :
    (timers.release key now).2.1 = .tap ↔
      ∃ record, timers.get? key = some record ∧ now - record.time < timers.term := by
  show ((timers.get? key).map (timers.resolve · now)).getD .hold = .tap ↔ _
  cases timers.get? key with
  | none => exact iff_of_false nofun fun ⟨_, h, _⟩ => nomatch h
  | some record =>
    show (if now - record.time < timers.term then TapHold.tap else .hold) = .tap ↔ _
    by_cases h : now - record.time < timers.term
    · rw [if_pos h]
      exact iff_of_true rfl ⟨record, rfl, h⟩
    · rw [if_neg h]
      refine iff_of_false nofun ?_
      rintro ⟨_, ⟨⟩, hlt⟩
      exact h hlt

theorem isPastTerm_eq_true_iff {now : Nat} :
    timers.isPastTerm key now = true ↔
      ∃ record, timers.get? key = some record ∧ timers.term ≤ now - record.time := by
  unfold isPastTerm
  cases timers.get? key with
  | none => exact iff_of_false Bool.false_ne_true fun ⟨_, h, _⟩ => nomatch h
  | some record =>
    rw [decide_eq_true_eq]
    constructor
    · intro h
      exact ⟨record, rfl, h⟩
    · rintro ⟨_, ⟨⟩, h⟩
      exact h

/-- While a key is down, its release is a hold exactly if its term has run out. -/
theorem release_eq_hold_iff {now : Nat} (h : timers.isPressed key = true) :
    (timers.release key now).2.1 = .hold ↔ timers.isPastTerm key now = true := by
  obtain ⟨record, hrecord⟩ := Option.isSome_iff_exists.mp h
  have hhold : (timers.release key now).2.1 = .hold ↔ ¬(timers.release key now).2.1 = .tap := by
    cases (timers.release key now).2.1 with
    | tap => exact iff_of_false nofun fun h => h rfl
    | hold => exact iff_of_true rfl nofun
  rw [hhold, release_eq_tap_iff, isPastTerm_eq_true_iff, hrecord]
  constructor
  · intro hnot
    exact ⟨record, rfl, Nat.le_of_not_lt fun hlt => hnot ⟨record, rfl, hlt⟩⟩
  · rintro ⟨_, ⟨⟩, hle⟩ ⟨_, ⟨⟩, hlt⟩
    exact Nat.not_lt.mpr hle hlt

/-! ## Two runs -/

/-- Timers of the same term agree at a key if they have the same record of it. -/
structure AgreesAt (key : Key) (timers other : HoldTimers) : Prop where
  term : timers.term = other.term
  record : timers.get? key = other.get? key

namespace AgreesAt

/-- A call that names another key changes nothing at this one. -/
theorem of_ne (h : AgreesAt key timers other) {call : Call} (hne : call.key ≠ key) :
    AgreesAt key (timers.answer call).1 other where
  term := (timers.answer_term call).trans h.term
  record := by
    rw [get?_answer, Call.sets_of_ne hne]
    exact h.record

theorem answer (h : AgreesAt key timers other) (call : Call) :
    AgreesAt key (timers.answer call).1 (other.answer call).1 where
  term := by rw [answer_term, answer_term, h.term]
  record := by rw [get?_answer, get?_answer, h.record]

/-- A call about the key is answered alike. -/
theorem reply (h : AgreesAt key timers other) {call : Call} (hkey : call.key = key) :
    (timers.answer call).2 = (other.answer call).2 := by
  subst hkey
  have hresolve (record : PressRecord) (now : Nat) :
      timers.resolve record now = other.resolve record now := by
    unfold resolve
    rw [h.term]
  cases call with
  | press named record => rfl
  | release named now =>
    have hrecord : timers.get? named = other.get? named := h.record
    show Reply.released (((timers.get? named).map (timers.resolve · now)).getD .hold) _ =
      Reply.released (((other.get? named).map (other.resolve · now)).getD .hold) _
    simp only [hresolve]
    show Reply.released _ (timers.get? named) = Reply.released _ (other.get? named)
    rw [hrecord]
  | isPastTerm named now =>
    have hrecord : timers.get? named = other.get? named := h.record
    show Reply.pastTerm (timers.isPastTerm named now) = .pastTerm (other.isPastTerm named now)
    unfold isPastTerm
    rw [hrecord, h.term]
  | take named => exact congrArg Reply.taken h.record

/-- **Calls that name other keys can be left out.** -/
theorem run (h : AgreesAt key timers other) (calls : List Call) :
    (timers.replies calls).filter (·.1 == key) =
        other.replies (calls.filter (·.key == key)) ∧
      AgreesAt key (timers.after calls) (other.after (calls.filter (·.key == key))) := by
  induction calls generalizing timers other with
  | nil => exact ⟨rfl, h⟩
  | cons call rest ih =>
    rw [replies, List.filter_cons, List.filter_cons]
    by_cases hkey : call.key = key
    · obtain ⟨hreplies, hafter⟩ := ih (h.answer call)
      rw [if_pos (beq_iff_eq.mpr hkey), if_pos (beq_iff_eq.mpr hkey), replies, hreplies,
        h.reply hkey]
      exact ⟨rfl, hafter⟩
    · obtain ⟨hreplies, hafter⟩ := ih (h.of_ne hkey)
      rw [if_neg (mt beq_iff_eq.mp hkey), if_neg (mt beq_iff_eq.mp hkey), hreplies]
      exact ⟨rfl, hafter⟩

end AgreesAt

/-! ## One run -/

theorem after_term (timers : HoldTimers) (calls : List Call) :
    (timers.after calls).term = timers.term := by
  induction calls generalizing timers with
  | nil => rfl
  | cons call rest ih => exact (ih (timers.answer call).1).trans (timers.answer_term call)

/-- The record of a key is that of its latest press, if since then it has not been released
or taken; or else the one of before. -/
theorem get?_after_eq_some_iff {calls : List Call} {record : PressRecord} :
    (timers.after calls).get? key = some record ↔
      (∃ front back, calls = front ++ .press key record :: back ∧
        ∀ call ∈ back, call.sets key = false) ∨
      timers.get? key = some record ∧ ∀ call ∈ calls, call.sets key = false := by
  induction calls generalizing timers with
  | nil =>
    constructor
    · intro h
      exact .inr ⟨h, List.forall_mem_nil _⟩
    · rintro (⟨front, back, h, -⟩ | ⟨h, -⟩)
      · exact absurd h.symm (List.append_ne_nil_of_right_ne_nil front (List.cons_ne_nil _ back))
      · exact h
  | cons call rest ih =>
    show ((timers.answer call).1.after rest).get? key = some record ↔ _
    rw [ih, get?_answer, List.forall_mem_cons]
    constructor
    · rintro (⟨front, back, rfl, hback⟩ | ⟨hrecord, hrest⟩)
      · exact .inl ⟨call :: front, back, rfl, hback⟩
      · by_cases hsets : call.sets key = true
        · rw [if_pos hsets] at hrecord
          cases call with
          | press named record' =>
            obtain rfl : named = key := beq_iff_eq.mp hsets
            obtain rfl : record' = record := Option.some.inj hrecord
            exact .inl ⟨[], rest, rfl, hrest⟩
          | release named now => exact nomatch hrecord
          | isPastTerm named now => exact nomatch hrecord
          | take named => exact nomatch hrecord
        · rw [if_neg hsets] at hrecord
          exact .inr ⟨hrecord, Bool.eq_false_iff.mpr hsets, hrest⟩
    · rintro (⟨front, back, hsplit, hback⟩ | ⟨hrecord, hcall, hrest⟩)
      · cases front with
        | nil =>
          obtain ⟨rfl, rfl⟩ := List.cons.inj hsplit
          exact .inr ⟨if_pos (beq_self_eq_true key), hback⟩
        | cons first front =>
          obtain ⟨rfl, rfl⟩ := List.cons.inj hsplit
          exact .inl ⟨front, back, rfl, hback⟩
      · rw [hcall]
        exact .inr ⟨hrecord, hrest⟩

/-- **Each key has a timer of its own.** In every run of the timers, the answers about a key
and its record are those of the calls that name it alone; its release is a tap exactly if,
with no release and no taking of it since, its latest press was less than the term ago; and
while it is down its release is a hold exactly if it is said to be past its term. -/
theorem replies_per_key (term : Nat) :
    let fresh : HoldTimers := { term := term }
    (∀ calls key,
      (fresh.replies calls).filter (·.1 == key) =
          fresh.replies (calls.filter (·.key == key)) ∧
        (fresh.after calls).get? key =
          (fresh.after (calls.filter (·.key == key))).get? key) ∧
    (∀ calls key now, ((fresh.after calls).release key now).2.1 = .tap ↔
      ∃ front record back, calls = front ++ .press key record :: back ∧
        (∀ call ∈ back, call.sets key = false) ∧ now - record.time < term) ∧
    ∀ calls key now, (fresh.after calls).isPressed key = true →
      (((fresh.after calls).release key now).2.1 = .hold ↔
        (fresh.after calls).isPastTerm key now = true) := by
  intro fresh
  refine ⟨fun calls key => ?_, fun calls key now => ?_, fun calls key now hdown => ?_⟩
  · have hsame : AgreesAt key fresh fresh := ⟨rfl, rfl⟩
    obtain ⟨hreplies, hafter⟩ := hsame.run calls
    exact ⟨hreplies, hafter.record⟩
  · rw [release_eq_tap_iff, after_term]
    constructor
    · rintro ⟨record, hrecord, hterm⟩
      rcases get?_after_eq_some_iff.mp hrecord with ⟨front, back, hcalls, hback⟩ | ⟨hnone, -⟩
      · exact ⟨front, record, back, hcalls, hback, hterm⟩
      · exact nomatch hnone
    · rintro ⟨front, record, back, hcalls, hback, hterm⟩
      exact ⟨record, get?_after_eq_some_iff.mpr (.inl ⟨front, back, hcalls, hback⟩), hterm⟩
  · exact release_eq_hold_iff hdown

/-- `QU` goes down again while it is down, and another key is taken in between. The later of
its presses counts. -/
theorem replies_per_key_pressed_twice :
    let timers := ({ term := 200 } : HoldTimers).after
      [.press .qu ⟨0, ∅, false⟩, .press .homeD ⟨50, ∅, false⟩, .press .qu ⟨100, ∅, true⟩,
        .isPastTerm .homeD 250, .take .homeD]
    timers.isPressed .qu = true ∧
      ((timers.release .qu 300).2.1 = .hold ↔ timers.isPastTerm .qu 300 = true) ∧
      timers.release .qu 299 = (timers.forget .qu, .tap, some ⟨100, ∅, true⟩) ∧
      timers.isPastTerm .qu 300 = true := by
  intro timers
  have hdown : timers.isPressed .qu = true := by decide
  exact ⟨hdown, (replies_per_key 200).2.2 _ .qu 300 hdown, by decide, by decide⟩

end Keymap.HoldTimers
