import Keymap.Proofs.Typist.Sentence
import Mathlib.Data.List.Induction

/-!
# What makes a letter a capital

The tracker keeps one bit and a switch; what it says of an event depends on all the calls
before. Of those most are passed over, and the latest of the others decides.

- `SentenceCase.Call`, `SentenceCase.obeyAll`: the calls to a tracker, and a run of them.
- `SentenceCase.counting`: the calls of a run that are not passed over.
- `SentenceCase.isPrimed_obeyAll`: a capital is due if the latest of them makes it due.
- `SentenceCase.obeyAll_capitals`: **a letter is a capital exactly if the tracker is on and
  the latest call that counts makes a capital due**; between two capitals there is always
  such a call.
-/

namespace Keymap.SentenceCase

/-- A call to the tracker. -/
inductive Call where
  | event (event : KeyEvent)
  | enable
  | disable
  | toggle
  | prime
  deriving DecidableEq

/-- What a call makes of the tracker. -/
def obey (tracker : SentenceCase) : Call → SentenceCase
  | .event event => (tracker.onEvent event).1
  | .enable => tracker.enable
  | .disable => tracker.disable
  | .toggle => tracker.toggle
  | .prime => tracker.prime

/-- Calls one after another. -/
def obeyAll (tracker : SentenceCase) (calls : List Call) : SentenceCase :=
  calls.foldl obey tracker

namespace Call

/-- Whether the tracker is on after a call, if it was `on` before. -/
def switch (on : Bool) : Call → Bool
  | enable => true
  | disable => false
  | toggle => !on
  | event _ | prime => on

/-- Whether a call to a tracker is passed over: one that turns it on, a space, a quote or
anything that is ignored, and all events and primings while it is off. -/
def isPassedOver (on : Bool) : Call → Bool
  | .event seen =>
    !on || match classify seen with
      | .ignore | .space | .quote => true
      | .letter | .terminator | .reset => false
  | prime => !on
  | enable => true
  | disable | toggle => false

/-- Whether a call makes a capital due. -/
def primes : Call → Bool
  | .event seen => classify seen == .terminator
  | prime => true
  | enable | disable | toggle => false

end Call

/-- The calls that count, in order, of those made to a tracker that is `on` or not. -/
def counting (on : Bool) : List Call → List Call
  | [] => []
  | call :: rest =>
    if call.isPassedOver on then counting (call.switch on) rest
    else call :: counting (call.switch on) rest

variable {tracker : SentenceCase} {event : KeyEvent}

/-! ## One call -/

/-- An event is told to be a capital letter if the tracker is on and a capital is due. -/
theorem onEvent_eq_true_iff :
    (tracker.onEvent event).2 = true ↔
      tracker.enabled = true ∧ classify event = .letter ∧ tracker.isPrimed = true := by
  unfold onEvent
  cases tracker.enabled with
  | false => exact iff_of_false Bool.false_ne_true fun h => Bool.false_ne_true h.1
  | true =>
    cases classify event with
    | letter => exact ⟨fun h => ⟨rfl, rfl, h⟩, fun h => h.2.2⟩
    | _ => exact iff_of_false Bool.false_ne_true fun h => nomatch h.2.1

/-- A capital uses up what made it due. -/
theorem onEvent_of_capital (h : (tracker.onEvent event).2 = true) :
    (tracker.onEvent event).1 = { enabled := true } := by
  obtain ⟨hon, hletter, -⟩ := onEvent_eq_true_iff.mp h
  unfold onEvent
  rw [hon, hletter]
  obtain ⟨enabled, state⟩ := tracker
  obtain rfl : enabled = true := hon
  rfl

theorem obey_enabled (tracker : SentenceCase) (call : Call) :
    (tracker.obey call).enabled = call.switch tracker.enabled := by
  obtain ⟨enabled, state⟩ := tracker
  cases call with
  | event event =>
    show (onEvent ⟨enabled, state⟩ event).1.enabled = enabled
    unfold onEvent
    cases enabled with
    | false => rfl
    | true => cases classify event <;> rfl
  | enable => rfl
  | disable => rfl
  | toggle => cases enabled <;> rfl
  | prime => cases enabled <;> rfl

theorem Coherent.obey (h : tracker.Coherent) (call : Call) : (tracker.obey call).Coherent := by
  cases call with
  | event event => exact h.onEvent event
  | enable => exact .enable tracker
  | disable => exact .disable tracker
  | toggle => exact .toggle tracker
  | prime => exact h.prime

/-- A call that is passed over leaves it as it is whether a capital is due; after any other
a capital is due if the call makes it due. -/
theorem obey_isPrimed (h : tracker.Coherent) (call : Call) :
    (tracker.obey call).isPrimed =
      if call.isPassedOver tracker.enabled then tracker.isPrimed else call.primes := by
  obtain ⟨enabled, state⟩ := tracker
  cases call with
  | event event =>
    show (onEvent ⟨enabled, state⟩ event).1.isPrimed = _
    cases enabled with
    | false => rfl
    | true =>
      cases hclass : classify event <;>
        simp [onEvent, Call.isPassedOver, Call.primes, isPrimed, hclass]
  | enable => rfl
  | disable => rfl
  | toggle =>
    cases enabled with
    | false =>
      -- nothing can be due while the tracker is off
      obtain rfl : state = .idle := h rfl
      rfl
    | true => rfl
  | prime => cases enabled <;> rfl

/-! ## Runs -/

theorem obeyAll_append (tracker : SentenceCase) (earlier later : List Call) :
    tracker.obeyAll (earlier ++ later) = (tracker.obeyAll earlier).obeyAll later :=
  List.foldl_append

theorem obeyAll_concat (tracker : SentenceCase) (calls : List Call) (call : Call) :
    tracker.obeyAll (calls ++ [call]) = (tracker.obeyAll calls).obey call :=
  tracker.obeyAll_append calls [call]

/-- Whether the tracker is on is for the switches alone. -/
theorem obeyAll_enabled (tracker : SentenceCase) (calls : List Call) :
    (tracker.obeyAll calls).enabled = calls.foldl Call.switch tracker.enabled := by
  induction calls generalizing tracker with
  | nil => rfl
  | cons call rest ih =>
    show ((tracker.obey call).obeyAll rest).enabled = _
    rw [ih, obey_enabled]
    rfl

theorem Coherent.obeyAll (h : tracker.Coherent) (calls : List Call) :
    (tracker.obeyAll calls).Coherent := by
  induction calls generalizing tracker with
  | nil => exact h
  | cons call rest ih => exact ih (h.obey call)

theorem counting_append (on : Bool) (earlier later : List Call) :
    counting on (earlier ++ later) =
      counting on earlier ++ counting (earlier.foldl Call.switch on) later := by
  induction earlier generalizing on with
  | nil => rfl
  | cons call rest ih =>
    rw [List.cons_append, counting, counting, ih, List.foldl_cons]
    split
    · rfl
    · rfl

/-- A capital is due if the latest call that counts has made it due. -/
theorem isPrimed_obeyAll (on : Bool) (calls : List Call) :
    (({ enabled := on } : SentenceCase).obeyAll calls).isPrimed = true ↔
      ∃ call ∈ (counting on calls).getLast?, call.primes = true := by
  induction calls using List.reverseRecOn with
  | nil => exact iff_of_false Bool.false_ne_true fun ⟨_, hmem, _⟩ => nomatch hmem
  | append_singleton calls call ih =>
    have hcoherent : (({ enabled := on } : SentenceCase).obeyAll calls).Coherent :=
      Coherent.obeyAll (fun _ => rfl) calls
    rw [obeyAll_concat, obey_isPrimed hcoherent, obeyAll_enabled, counting_append, counting]
    by_cases hover : call.isPassedOver (calls.foldl Call.switch on) = true
    · rw [if_pos hover, if_pos hover, ih]
      simp [counting]
    · rw [if_neg hover, if_neg hover]
      simp [counting]

/-- **What the tracker says of an event.** Whatever calls have gone before: no capital is due
while it is off; and an event is told to be a capital letter exactly if the tracker is on,
the event is a letter, and the latest call that counts exists and is a terminator or makes a
capital due by itself. Between two capitals there is always such a call: it yields no more
than one. -/
theorem obeyAll_capitals (on : Bool) :
    let start : SentenceCase := { enabled := on }
    (∀ calls, (start.obeyAll calls).enabled = calls.foldl Call.switch on ∧
      (start.obeyAll calls).Coherent) ∧
    (∀ calls event, ((start.obeyAll calls).onEvent event).2 = true ↔
      (start.obeyAll calls).enabled = true ∧ classify event = .letter ∧
        ∃ call ∈ (counting on calls).getLast?, call.primes = true) ∧
    ∀ earlier one between other,
      ((start.obeyAll earlier).onEvent one).2 = true →
      ((start.obeyAll (earlier ++ .event one :: between)).onEvent other).2 = true →
      ∃ call ∈ counting true between, call.primes = true := by
  intro start
  refine ⟨fun calls => ⟨start.obeyAll_enabled calls, Coherent.obeyAll (fun _ => rfl) calls⟩,
    fun calls event => ?_, fun earlier one between other hone hother => ?_⟩
  · rw [onEvent_eq_true_iff, isPrimed_obeyAll]
  · -- after a capital the tracker is as a fresh one that is on
    have hfresh : start.obeyAll (earlier ++ .event one :: between) =
        ({ enabled := true } : SentenceCase).obeyAll between := by
      rw [obeyAll_append, ← onEvent_of_capital hone]
      rfl
    rw [hfresh, onEvent_eq_true_iff, isPrimed_obeyAll] at hother
    obtain ⟨-, -, call, hlast, hprimes⟩ := hother
    exact ⟨call, List.mem_of_getLast? hlast, hprimes⟩

/-- A tracker that is off at first. Making a capital due does nothing then; once it is on, a
full stop makes the next letter a capital, and an exclamation mark one more. -/
theorem obeyAll_capitals_off_on :
    let start : SentenceCase := { enabled := false }
    let earlier : List Call :=
      [.prime, .enable, .event (.press .dot ∅ 0), .event (.press .space ∅ 10)]
    let between : List Call :=
      [.event (.press .b ∅ 30), .event (.press .exclaim ∅ 40), .event (.press .doubleQuote ∅ 50)]
    ((start.obeyAll earlier).onEvent (.press .a ∅ 20)).2 = true ∧
      ((start.obeyAll (earlier ++ .event (.press .a ∅ 20) :: between)).onEvent
        (.press .c ∅ 60)).2 = true ∧
      ∃ call ∈ counting true between, call.primes = true := by
  intro start earlier between
  have hone : ((start.obeyAll earlier).onEvent (.press .a ∅ 20)).2 = true := by decide
  have hother : ((start.obeyAll (earlier ++ .event (.press .a ∅ 20) :: between)).onEvent
      (.press .c ∅ 60)).2 = true := by decide
  exact ⟨hone, hother, (obeyAll_capitals false).2.2 earlier (.press .a ∅ 20) between
    (.press .c ∅ 60) hone hother⟩

end Keymap.SentenceCase
