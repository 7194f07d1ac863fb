import Keymap.Key.Basic

/-!
# Chords

Two keys that are pressed together and stand for a third.

- `Chord`: the two keys and what they stand for.
- `Chord.joins`: whether two keys are the keys of a chord, in either order.
-/

namespace Keymap

/-- A chord of two keys and the key that it stands for. -/
structure Chord where
  first : Key
  second : Key
  output : Key
  deriving DecidableEq

namespace Chord

/-- Whether a key is one of the two. -/
def contains (chord : Chord) (key : Key) : Bool :=
  key == chord.first || key == chord.second

/-- Whether two different keys are the keys of the chord. -/
def joins (chord : Chord) (one other : Key) : Bool :=
  one != other && chord.contains one && chord.contains other

end Chord

end Keymap
