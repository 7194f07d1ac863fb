import Keymap.Proofs.ModTap.Settlement

/-!
# Late taps

A tap is late if its key was down for the whole term: the clock was not read in
time, and what should have been a hold types a letter. Late taps are all that
settling leaves open.

- `StageOutput.IsLate`, `LateAt`: late taps and where they are.
- `Settlement.cases_ordinary`, `cases_release`, `cases_press`: the rules, by the
  first event.
- `Parts`: where two ways to settle one stream part.
- `Settlement.eq_or_parts`: **two ways to settle one stream part over a late tap**.
- `Settlement.unique`: they put out the same if and only if their late taps are in
  the same places.
-/

namespace Keymap

/-- A tap of a key that was down for the whole term. -/
def StageOutput.IsLate (term : Nat) : StageOutput → Prop
  | .tap _ press release => term ≤ release.time - press.time
  | .pass _ | .hold _ _ | .lift _ _ => False

/-- There is a late tap at a place. -/
def LateAt (term : Nat) (outputs : List StageOutput) (i : Nat) : Prop :=
  ∃ output ∈ outputs[i]?, output.IsLate term

@[simp] theorem lateAt_cons_zero {term : Nat} {output : StageOutput} {rest : List StageOutput} :
    LateAt term (output :: rest) 0 ↔ output.IsLate term := by
  simp [LateAt]

@[simp] theorem lateAt_cons_succ {term : Nat} {output : StageOutput} {rest : List StageOutput}
    {i : Nat} : LateAt term (output :: rest) (i + 1) ↔ LateAt term rest i := by
  simp [LateAt]

/-- Two lists of outputs part: after the same outputs, one holds a mod-tap, `first`
or not, and the other taps it late. -/
inductive Parts (term : Nat) (first : Bool) : List StageOutput → List StageOutput → Prop where
  | here {modTap press release back back'} (hkey : ModTap.ofKey? modTap.key = some modTap)
      (hdown : press.stroke = .down modTap.tap) (hlate : term ≤ release.time - press.time) :
      Parts term first (.hold modTap first :: back) (.tap modTap press release :: back')
  | later {output back back'} (h : Parts term first back back') :
      Parts term first (output :: back) (output :: back')

/-- Where two lists part only one of them has a late tap. -/
theorem Parts.lateAt {term : Nat} {first : Bool} {outputs outputs' : List StageOutput}
    (h : Parts term first outputs outputs') :
    ∃ i, ¬LateAt term outputs i ∧ LateAt term outputs' i := by
  induction h with
  | here _ _ hlate =>
    refine ⟨0, ?_, lateAt_cons_zero.mpr hlate⟩
    rw [lateAt_cons_zero]
    exact id
  | later _ ih =>
    obtain ⟨i, hno, hyes⟩ := ih
    exact ⟨i + 1, mt lateAt_cons_succ.mp hno, lateAt_cons_succ.mpr hyes⟩

/-- What comes before changes nothing. -/
theorem eq_or_parts_cons {term : Nat} (output : StageOutput) {rest rest' : List StageOutput}
    (h : rest = rest' ∨ ∃ first, Parts term first rest rest' ∨ Parts term first rest' rest) :
    output :: rest = output :: rest' ∨ ∃ first,
      Parts term first (output :: rest) (output :: rest') ∨
        Parts term first (output :: rest') (output :: rest) := by
  rcases h with rfl | ⟨first, h | h⟩
  · exact .inl rfl
  · exact .inr ⟨first, .inl h.later⟩
  · exact .inr ⟨first, .inr h.later⟩

namespace Settlement

variable {term : Nat} {ordered : Prop} {held held' held'' : List ModTap} {event : KeyEvent}
  {events rest : List KeyEvent} {outputs outputs' : List StageOutput} {modTap : ModTap}

/-! ## The rules, by the first event -/

theorem cases_nil (h : Settlement term ordered held [] outputs held' []) : outputs = [] := by
  cases h
  rfl

theorem cases_ordinary (h : Settlement term ordered held (event :: rest) outputs held' [])
    (hkey : ModTap.ofKey? event.key = none) :
    ∃ later, outputs = .pass (event.withMods (ModTap.modsOf held)) :: later ∧
      Settlement term ordered held rest later held' [] := by
  cases h with
  | pass _ hrest => exact ⟨_, rfl, hrest⟩
  | lift hother _ _ _ => simp [hkey] at hother
  | stray hother _ _ _ => simp [hkey] at hother
  | hold hother _ _ _ => simp [hkey] at hother
  | tap hother _ _ _ _ _ => simp [hkey] at hother

theorem cases_release (h : Settlement term ordered held (event :: rest) outputs held' [])
    (hkey : ModTap.ofKey? event.key = some modTap) (hup : event.action = .release) :
    ((held.any fun other => other.key == modTap.key) = true ∧
      ∃ later, outputs = .lift modTap (!ModTap.anyHolds
          (held.eraseP fun other => other.key == modTap.key) modTap.modifier) :: later ∧
        Settlement term ordered (held.eraseP fun other => other.key == modTap.key) rest later
          held' []) ∨
    ((held.any fun other => other.key == modTap.key) = false ∧
      Settlement term ordered held rest outputs held' []) := by
  cases h with
  | pass hother _ => simp [hkey] at hother
  | lift hother _ hheld hrest =>
    obtain rfl := Option.some.inj (hkey.symm.trans hother)
    exact .inl ⟨hheld, _, rfl, hrest⟩
  | stray hother _ hheld hrest =>
    obtain rfl := Option.some.inj (hkey.symm.trans hother)
    exact .inr ⟨hheld, hrest⟩
  | hold _ hdown _ _ => simp [hup] at hdown
  | tap _ hdown _ _ _ _ => simp [hup] at hdown

theorem cases_press (h : Settlement term ordered held (event :: rest) outputs held' [])
    (hkey : ModTap.ofKey? event.key = some modTap) (hdown : event.action = .press) :
    (∃ later, outputs = .hold modTap (!ModTap.anyHolds held modTap.modifier) :: later ∧
      (¬Stroke.Unnested ((insideHold event.key rest).map KeyEvent.stroke) ∨
        Overdue term ordered event rest) ∧
      Settlement term ordered (held ++ [modTap]) rest later held' []) ∨
    (∃ front release back later, rest = front ++ release :: back ∧
      release.stroke = .up event.key ∧ .up event.key ∉ front.map KeyEvent.stroke ∧
      Stroke.Unnested (front.map KeyEvent.stroke) ∧
      outputs = .tap modTap
        ((KeyEvent.press modTap.tap event.mods event.time).withMods (ModTap.modsOf held))
        ((KeyEvent.release modTap.tap event.mods release.time).withMods (ModTap.modsOf held))
          :: later ∧
      Settlement term ordered held (front ++ back) later held' []) := by
  cases h with
  | pass hother _ => simp [hkey] at hother
  | lift _ hup _ _ => simp [hup] at hdown
  | stray _ hup _ _ => simp [hup] at hdown
  | hold hother _ why hrest =>
    obtain rfl := Option.some.inj (hkey.symm.trans hother)
    exact .inl ⟨_, rfl, why, hrest⟩
  | tap hother _ hrelease hfirst hfree hrest =>
    obtain rfl := Option.some.inj (hkey.symm.trans hother)
    exact .inr ⟨_, _, _, _, rfl, hrelease, hfirst, hfree, rfl, hrest⟩

/-! ## Late taps -/

/-- Up to its release, what is inside a tap is what is inside a hold. -/
theorem insideHold_tap {key : Key} {front back : List KeyEvent} {release : KeyEvent}
    (hup : release.stroke = .up key) (hfirst : .up key ∉ front.map KeyEvent.stroke) :
    insideHold key (front ++ release :: back) = front := by
  rw [insideHold_append hfirst, insideHold, List.takeWhile_cons_of_neg (by simp [hup]),
    List.append_nil]

/-- Where one way is a tap and another a hold, the tap is late. -/
theorem isLate_of_hold {press : KeyEvent} {front back : List KeyEvent} {release : KeyEvent}
    (hup : release.stroke = .up press.key) (hfirst : .up press.key ∉ front.map KeyEvent.stroke)
    (hfree : Stroke.Unnested (front.map KeyEvent.stroke))
    (why : ¬Stroke.Unnested
        ((insideHold press.key (front ++ release :: back)).map KeyEvent.stroke) ∨
      Overdue term True press (front ++ release :: back)) :
    term ≤ release.time - press.time := by
  rw [insideHold_tap hup hfirst] at why
  -- nothing nests, so the clock was read past the term and before the release
  rcases why with hnested | ⟨now, hterm, hbefore⟩
  · exact absurd hfree hnested
  · have := hbefore trivial release (by simp) hup
    omega

/-- The first release of a key in a stream is where it is. -/
theorem eq_of_first_up {key : Key} {front front' back back' : List KeyEvent}
    {release release' : KeyEvent}
    (h : front ++ release :: back = front' ++ release' :: back')
    (hup : release.stroke = .up key) (hup' : release'.stroke = .up key)
    (hfirst : .up key ∉ front.map KeyEvent.stroke)
    (hfirst' : .up key ∉ front'.map KeyEvent.stroke) :
    front = front' ∧ release = release' ∧ back = back' := by
  have hfront : front = front' := by
    have hinside := @insideHold_tap key front back release hup hfirst
    rwa [h, insideHold_tap hup' hfirst', eq_comm] at hinside
  subst hfront
  obtain ⟨rfl, rfl⟩ := List.cons.inj (List.append_cancel_left h)
  exact ⟨rfl, rfl, rfl⟩

/-- **Two ways to settle one ordered stream put out the same, unless** they part
over a late tap. -/
theorem eq_or_parts (one : Settlement term True held events outputs held' [])
    (other : Settlement term True held events outputs' held'' []) :
    outputs = outputs' ∨ ∃ first, Parts term first outputs outputs' ∨
      Parts term first outputs' outputs := by
  generalize hleft : [] = left at one
  induction one generalizing outputs' with
  | stop held events =>
    subst hleft
    exact .inl other.cases_nil.symm
  | pass hkey _ ih =>
    obtain ⟨later, rfl, hother⟩ := other.cases_ordinary hkey
    exact eq_or_parts_cons _ (ih hother hleft)
  | lift hkey hup hheld _ ih =>
    rcases other.cases_release hkey hup with ⟨-, later, rfl, hother⟩ | ⟨hfree, -⟩
    · exact eq_or_parts_cons _ (ih hother hleft)
    · simp [hheld] at hfree
  | stray hkey hup hheld _ ih =>
    rcases other.cases_release hkey hup with ⟨hfree, -⟩ | ⟨-, hother⟩
    · simp [hheld] at hfree
    · exact ih hother hleft
  | hold hkey hdown why _ ih =>
    -- here the two may part
    rcases other.cases_press hkey hdown with ⟨later, rfl, -, hother⟩ |
      ⟨front, release, back, later, rfl, hup, hfirst, hfree, rfl, -⟩
    · exact eq_or_parts_cons _ (ih hother hleft)
    · have hlate := isLate_of_hold hup hfirst hfree why
      exact .inr ⟨_, .inl (.here (ModTap.key_of_ofKey? hkey ▸ hkey) rfl hlate)⟩
  | tap hkey hdown hup hfirst hfree _ ih =>
    rcases other.cases_press hkey hdown with ⟨later, rfl, why, -⟩ |
      ⟨front, release, back, later, hsplit, hup', hfirst', -, rfl, hother⟩
    · have hlate := isLate_of_hold hup hfirst hfree why
      exact .inr ⟨_, .inr (.here (ModTap.key_of_ofKey? hkey ▸ hkey) rfl hlate)⟩
    · obtain ⟨rfl, rfl, rfl⟩ := eq_of_first_up hsplit hup hup' hfirst hfirst'
      exact eq_or_parts_cons _ (ih hother hleft)

/-- **Two ways to settle one ordered stream put out the same if and only if their
late taps are in the same places.** -/
theorem unique (one : Settlement term True held events outputs held' [])
    (other : Settlement term True held events outputs' held'' []) :
    outputs = outputs' ↔ ∀ i, LateAt term outputs i ↔ LateAt term outputs' i := by
  constructor
  · rintro rfl i
    rfl
  · intro hlate
    rcases one.eq_or_parts other with heq | ⟨first, hparts | hparts⟩
    · exact heq
    · obtain ⟨i, hno, hyes⟩ := hparts.lateAt
      exact absurd ((hlate i).mpr hyes) hno
    · obtain ⟨i, hno, hyes⟩ := hparts.lateAt
      exact absurd ((hlate i).mp hyes) hno

end Settlement

end Keymap
