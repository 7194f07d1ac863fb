import Keymap.Proofs.ModTap.Turn

/-!
# Settling in order

What the mod-tap stage does to a stream of events can be said without timers,
buffers and replays: it goes through the events in order and settles each press
of a mod-tap on the spot, as a hold or as a tap. Only a tap looks ahead: the
release that makes it one is taken out of the stream.

- `Settlement`: the rules. A press may be settled as a hold if a key goes down
  and comes up before its own release, or if the clock was read when it had been
  down for its term. It may be settled as a tap if no key goes down and comes up
  before its release.
- `Settlement.trans`: settling can go on where it stopped.
- `Settlement.sublist`: it only takes events out of the stream.

The rules speak of readings of the clock. If the stream is `ordered`, none of
them is later than a release still to come.
-/

namespace Keymap

/-- The modifiers that some held mod-taps contribute. -/
def ModTap.modsOf (held : List ModTap) : ModMask :=
  held.foldl (fun mods modTap => mods ∪ modTap.mask) ∅

/-- Whether one of some held mod-taps holds a modifier. -/
def ModTap.anyHolds (held : List ModTap) (m : Modifier) : Bool :=
  held.any fun modTap => modTap.modifier == m

/-- Each of some held mod-taps is that of its key. -/
def ModTap.Genuine (held : List ModTap) : Prop :=
  ∀ modTap ∈ held, ofKey? modTap.key = some modTap

theorem ModTap.Genuine.hold {held : List ModTap} {key : Key} {modTap : ModTap}
    (h : Genuine held) (hkey : ofKey? key = some modTap) : Genuine (held ++ [modTap]) := by
  intro other hmem
  rcases List.mem_append.mp hmem with hold | hnew
  · exact h other hold
  · rw [List.mem_singleton.mp hnew, key_of_ofKey? hkey, hkey]

theorem ModTap.Genuine.lift {held : List ModTap} (h : Genuine held) (p : ModTap → Bool) :
    Genuine (held.eraseP p) :=
  fun other hmem => h other (List.mem_of_mem_eraseP hmem)

/-- The events before a key comes up. -/
def insideHold (key : Key) (events : List KeyEvent) : List KeyEvent :=
  events.takeWhile fun event => event.stroke != .up key

theorem insideHold_append {key : Key} {front : List KeyEvent}
    (h : .up key ∉ front.map KeyEvent.stroke) (back : List KeyEvent) :
    insideHold key (front ++ back) = front ++ insideHold key back := by
  refine List.takeWhile_append_of_pos fun event hevent => ?_
  simp only [bne_iff_ne, ne_eq]
  exact fun hup => h (List.mem_map.mpr ⟨event, hevent, hup⟩)

theorem insideHold_cons_of_ne {key : Key} {event : KeyEvent} (h : event.key ≠ key)
    (rest : List KeyEvent) :
    insideHold key (event :: rest) = event :: insideHold key rest := by
  refine List.takeWhile_cons_of_pos ?_
  simp only [bne_iff_ne, ne_eq]
  exact fun hup => h (congrArg Stroke.key hup)

/-- The clock was read when a press had been down for its term, in an ordered
stream not after the release of its key. -/
def Overdue (term : Nat) (ordered : Prop) (press : KeyEvent) (rest : List KeyEvent) : Prop :=
  ∃ now, term ≤ now - press.time ∧
    (ordered → ∀ event ∈ rest, event.stroke = .up press.key → now ≤ event.time)

/-- `Settlement term ordered held events outputs held' left`: while `held` are
held, the events up to `left` are settled in order, which puts out `outputs` and
leaves `held'` held. -/
inductive Settlement (term : Nat) (ordered : Prop) :
    List ModTap → List KeyEvent → List StageOutput → List ModTap → List KeyEvent → Prop where
  | stop (held : List ModTap) (events : List KeyEvent) :
      Settlement term ordered held events [] held events
  | pass {held event rest outputs held' left}
      (hkey : ModTap.ofKey? event.key = none)
      (hrest : Settlement term ordered held rest outputs held' left) :
      Settlement term ordered held (event :: rest)
        (.pass (event.withMods (ModTap.modsOf held)) :: outputs) held' left
  | lift {held event rest outputs held' left modTap}
      (hkey : ModTap.ofKey? event.key = some modTap) (hup : event.action = .release)
      (hheld : (held.any fun other => other.key == modTap.key) = true)
      (hrest : Settlement term ordered (held.eraseP fun other => other.key == modTap.key)
        rest outputs held' left) :
      Settlement term ordered held (event :: rest)
        (.lift modTap (!ModTap.anyHolds (held.eraseP fun other => other.key == modTap.key)
          modTap.modifier) :: outputs) held' left
  | stray {held event rest outputs held' left modTap}
      (hkey : ModTap.ofKey? event.key = some modTap) (hup : event.action = .release)
      (hheld : (held.any fun other => other.key == modTap.key) = false)
      (hrest : Settlement term ordered held rest outputs held' left) :
      Settlement term ordered held (event :: rest) outputs held' left
  | hold {held press rest outputs held' left modTap}
      (hkey : ModTap.ofKey? press.key = some modTap) (hdown : press.action = .press)
      (why : ¬Stroke.Unnested ((insideHold press.key rest).map KeyEvent.stroke) ∨
        Overdue term ordered press rest)
      (hrest : Settlement term ordered (held ++ [modTap]) rest outputs held' left) :
      Settlement term ordered held (press :: rest)
        (.hold modTap (!ModTap.anyHolds held modTap.modifier) :: outputs) held' left
  | tap {held press front release back outputs held' left modTap}
      (hkey : ModTap.ofKey? press.key = some modTap) (hdown : press.action = .press)
      (hup : release.stroke = .up press.key)
      (hfirst : .up press.key ∉ front.map KeyEvent.stroke)
      (hfree : Stroke.Unnested (front.map KeyEvent.stroke))
      (hrest : Settlement term ordered held (front ++ back) outputs held' left) :
      Settlement term ordered held (press :: (front ++ release :: back))
        (.tap modTap
          ((KeyEvent.press modTap.tap press.mods press.time).withMods (ModTap.modsOf held))
          ((KeyEvent.release modTap.tap press.mods release.time).withMods
            (ModTap.modsOf held)) :: outputs) held' left

namespace Settlement

variable {term : Nat} {ordered : Prop} {held held' held'' : List ModTap}
  {events left left' : List KeyEvent} {outputs outputs' : List StageOutput}

/-- What is left can be settled further. -/
theorem trans (one : Settlement term ordered held events outputs held' left)
    (two : Settlement term ordered held' left outputs' held'' left') :
    Settlement term ordered held events (outputs ++ outputs') held'' left' := by
  induction one with
  | stop => exact two
  | pass hkey _ ih => exact .pass hkey (ih two)
  | lift hkey hup hheld _ ih => exact .lift hkey hup hheld (ih two)
  | stray hkey hup hheld _ ih => exact .stray hkey hup hheld (ih two)
  | hold hkey hdown why _ ih => exact .hold hkey hdown why (ih two)
  | tap hkey hdown hup hfirst hfree _ ih => exact .tap hkey hdown hup hfirst hfree (ih two)

/-- What is left was there, in the same order. -/
theorem sublist (h : Settlement term ordered held events outputs held' left) :
    left.Sublist events := by
  induction h with
  | stop => exact List.Sublist.refl _
  | pass _ _ ih => exact ih.cons _
  | lift _ _ _ _ ih => exact ih.cons _
  | stray _ _ _ _ ih => exact ih.cons _
  | hold _ _ _ _ ih => exact ih.cons _
  | tap _ _ _ _ _ _ ih =>
    refine (ih.trans ?_).cons _
    exact List.Sublist.append_left (List.sublist_cons_self _ _) _

end Settlement

end Keymap
