import Keymap.Proofs.Delay
import Keymap.Proofs.Script.Timetable
import Keymap.Proofs.Script.Tokens

/-!
# Scripts one after another

Two scripts on lines of their own are read as one, and nothing of the first is seen
by the second but the number of tokens in front of it and the time at which it
starts.

- `tokens_append_newline`: the tokens of joined texts.
- `readItems_append`, `readItems_add`: tokens are read from the front, and an error
  counts the tokens before it.
- `parse_eq_ok_iff`: an accepted script is the schedule of what its tokens say.
- `schedule_append`, `schedule_add`: items are scheduled from the front, each from
  where the ones before it leave the clock.
- `parse_join`: **the steps, or the error, of joined scripts**.
-/

namespace Keymap

namespace Script

open Text

/-! ## Tokens -/

/-- The end of a line ends a comment, whatever was open in front of it. -/
theorem uncomment_append_newline (inside : Bool) (x y : List Char) :
    uncomment inside (x ++ '\n' :: y) = uncomment inside x ++ '\n' :: uncomment false y := by
  induction x generalizing inside with
  | nil => rfl
  | cons c rest ih =>
    rw [List.cons_append, uncomment, uncomment]
    by_cases hline : c = '\n'
    · rw [if_pos hline, if_pos hline, ih, List.cons_append]
    · rw [if_neg hline, if_neg hline]
      split
      · exact ih true
      · rw [ih, List.cons_append]

/-- Texts on lines of their own have their tokens one after another. -/
theorem tokens_append_newline (first second : String) :
    tokens (first ++ "\n" ++ second) = tokens first ++ tokens second := by
  have htext : (first ++ "\n" ++ second).toList = first.toList ++ '\n' :: second.toList := by
    simp
  have hblank : ∀ c ∈ ('\n' :: uncomment false second.toList).head?, isBlank c = true := by
    intro c hc
    rw [← Option.some.inj hc]
    exact isBlank_newline
  rw [tokens, htext, uncomment_append_newline, words_append hblank,
    words_cons_blank isBlank_newline]
  rfl

/-! ## Reading -/

/-- The error in a script in front of which stand `count` more tokens. -/
def Error.after (count : Nat) (error : Error) : Error :=
  { error with token := error.token + count }

/-- Tokens are read from the front, and the second part only if the first can be
read. -/
theorem readItems_append (n : Nat) (front back : List (List Char)) :
    readItems n (front ++ back) =
      readItems n front >>= fun items =>
        (readItems (n + front.length) back).map (items ++ ·) := by
  induction front generalizing n with
  | nil =>
    show readItems n back = (readItems n back).map id
    cases readItems n back <;> rfl
  | cons token rest ih =>
    have hnumber : n + (token :: rest).length = n + 1 + rest.length := by
      rw [List.length_cons]
      omega
    rw [List.cons_append, readItems, readItems, ih, hnumber]
    cases (Item.ofToken? token).mapError (Error.mk n) with
    | error error => rfl
    | ok item =>
      cases readItems (n + 1) rest with
      | error error => rfl
      | ok items => cases readItems (n + 1 + rest.length) back <;> rfl

/-- Tokens can be read if both parts of them can. -/
theorem readItems_append_eq_ok_iff {n : Nat} {front back : List (List Char)}
    {items : List Item} :
    readItems n (front ++ back) = .ok items ↔
      ∃ first more, readItems n front = .ok first ∧
        readItems (n + front.length) back = .ok more ∧ items = first ++ more := by
  rw [readItems_append]
  cases readItems n front with
  | error error => simp [bind, Except.bind]
  | ok first =>
    cases readItems (n + front.length) back with
    | error error => simp [bind, Except.bind, Except.map]
    | ok more => simp [bind, Except.bind, Except.map, eq_comm]

/-- The number of the first token is seen in errors only. -/
theorem readItems_add (n count : Nat) (tokens : List (List Char)) :
    readItems (n + count) tokens = (readItems n tokens).mapError (Error.after count) := by
  induction tokens generalizing n with
  | nil => rfl
  | cons token rest ih =>
    rw [readItems, readItems, Nat.add_right_comm, ih]
    cases Item.ofToken? token with
    | error fault => rfl
    | ok item => cases readItems (n + 1) rest <;> rfl

/-- A first token and more can be read if the token and the others can. -/
theorem readItems_cons_eq_ok_iff {n : Nat} {token : List Char} {rest : List (List Char)}
    {items : List Item} :
    readItems n (token :: rest) = .ok items ↔
      ∃ item more, Item.ofToken? token = .ok item ∧ readItems (n + 1) rest = .ok more ∧
        items = item :: more := by
  rw [readItems]
  cases Item.ofToken? token with
  | error fault => simp [Except.mapError, bind, Except.bind]
  | ok item =>
    cases readItems (n + 1) rest with
    | error error => simp [Except.mapError, bind, Except.bind]
    | ok more => simp [Except.mapError, bind, Except.bind, pure, Except.pure, eq_comm]

/-- What is read is what the tokens say. -/
theorem mem_of_readItems {n : Nat} {tokens : List (List Char)} {items : List Item}
    (h : readItems n tokens = .ok items) {item : Item} :
    item ∈ items ↔ ∃ token ∈ tokens, Item.ofToken? token = .ok item := by
  induction tokens generalizing n items with
  | nil =>
    rw [← Except.ok.inj h]
    simp
  | cons token rest ih =>
    obtain ⟨first, more, hfirst, hmore, rfl⟩ := readItems_cons_eq_ok_iff.mp h
    simp [ih hmore, hfirst, eq_comm]

/-- An accepted script is the schedule of what its tokens say. -/
theorem parse_eq_ok_iff {text : String} {steps : List Step} :
    parse text = .ok steps ↔
      ∃ items, readItems 1 (tokens text) = .ok items ∧ steps = schedule 0 items := by
  unfold parse
  cases readItems 1 (tokens text) with
  | error error => simp [Except.map]
  | ok items => simp [Except.map, eq_comm]

/-! ## Schedules -/

/-- The step, later. -/
def Step.delay (d : Nat) : Step → Step
  | event e => event (e.delay d)
  | layer l => layer l

/-- Items are scheduled from the front, and the second part from where the first
leaves the clock. -/
theorem schedule_append (start : Nat) (items more : List Item) :
    schedule start (items ++ more) =
      schedule start items ++ schedule (clockAfter start items) more := by
  induction items generalizing start with
  | nil => rfl
  | cons item rest ih =>
    rw [List.cons_append, schedule, schedule, ih, List.append_assoc, item.add_duration]
    rfl

section Delay

variable (start d : Nat)

theorem pressModifiers_add (held : ModMask) (mods : List Modifier) :
    pressModifiers (start + d) held mods =
      (pressModifiers start held mods).map (KeyEvent.delay d) := by
  induction mods generalizing held with
  | nil => rfl
  | cons m rest ih =>
    rw [pressModifiers, ih]
    rfl

theorem releaseModifiers_add (held : ModMask) (mods : List Modifier) :
    releaseModifiers (start + d) held mods =
      (releaseModifiers start held mods).map (KeyEvent.delay d) := by
  induction mods generalizing held with
  | nil => rfl
  | cons m rest ih =>
    rw [releaseModifiers, ih]
    rfl

theorem pressKeys_add (mods : ModMask) (keys : List Key) :
    pressKeys (start + d) mods keys =
      (pressKeys start mods keys).map (KeyEvent.delay d) := by
  induction keys generalizing start with
  | nil => rfl
  | cons key rest ih =>
    rw [pressKeys, Nat.add_right_comm, ih]
    rfl

/-- An item that starts later does the same later. -/
theorem Item.steps_add (item : Item) :
    item.steps (start + d) = (item.steps start).map (Step.delay d) := by
  cases item with
  | pause ms => rfl
  | layer l => rfl
  | stroke mods keys hold =>
    simp only [steps, strokeEvents, pressModifiers_add, releaseModifiers_add, pressKeys_add,
      Nat.add_right_comm start d, List.map_append, List.map_map]
    rfl

/-- A schedule that starts later is the same, later. -/
theorem schedule_add (items : List Item) :
    schedule (start + d) items = (schedule start items).map (Step.delay d) := by
  induction items generalizing start with
  | nil => rfl
  | cons item rest ih =>
    rw [schedule, schedule, item.steps_add, Nat.add_right_comm, ih, List.map_append]

end Delay

/-! ## Scripts -/

/-- Where a script leaves the clock, if it is accepted. -/
def finalClock (text : String) : Nat :=
  match readItems 1 (tokens text) with
  | .ok items => clockAfter 0 items
  | .error _ => 0

/-- **Scripts on lines of their own are read one after another.** The first error is
the one that counts, and in the second script it counts the tokens of the first.
Without errors the steps of the second script follow those of the first, and all its
events are late by as much as the first script takes, whatever the second one is. -/
theorem parse_join (first second : String) :
    parse (first ++ "\n" ++ second) =
      match parse first, parse second with
      | .error error, _ => .error error
      | .ok _, .error error => .error (error.after (tokens first).length)
      | .ok steps, .ok more => .ok (steps ++ more.map (Step.delay (finalClock first))) := by
  unfold parse finalClock
  rw [tokens_append_newline, readItems_append, readItems_add]
  cases readItems 1 (tokens first) with
  | error error => rfl
  | ok items =>
    cases readItems 1 (tokens second) with
    | error error => rfl
    | ok more =>
      have hlater : schedule (clockAfter 0 items) more =
          (schedule 0 more).map (Step.delay (clockAfter 0 items)) := by
        rw [← schedule_add, Nat.zero_add]
      show Except.ok (schedule 0 (items ++ more)) = _
      rw [schedule_append, hlater]
      rfl

end Script

end Keymap
