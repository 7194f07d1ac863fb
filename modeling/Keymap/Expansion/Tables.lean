import Keymap.Expansion.KeyTable
import Keymap.Modifier

/-!
# The built-in tables

What the triggers type after a remembered key, and what the word keys type.

- `Expansion`: a text of a magic key, the characters it deletes first, and the
  key that memory holds afterwards.
- `MagicSide`, `MagicSide.table`: the two magic keys and their tables.
- `MagicSide.expand`: the expansion of a remembered key.
- `alternateTable?`: the tables of the alternate-repeat keys.
- `wordTable`: the texts of the word keys.
-/

namespace Keymap

/-- What a magic key types after a remembered key. -/
structure Expansion where
  text : String
  /-- The key that memory holds afterwards, if the entry names one. -/
  repeatKey? : Option Key := none
  /-- How many characters are deleted first. -/
  backspaces : Nat := 0
  deriving DecidableEq

namespace Expansion

/-- The expansion with a key to remember. -/
def withRepeat (expansion : Expansion) (key : Key) : Expansion :=
  { expansion with repeatKey? := some key }

/-- The expansion with characters to delete first, two at most. -/
def withBackspaces (expansion : Expansion) (count : Nat) : Expansion :=
  { expansion with backspaces := min count 2 }

/-- The key that memory holds afterwards: the space if none is named. -/
def repeatKey (expansion : Expansion) : Key :=
  expansion.repeatKey?.getD .space

end Expansion

/-- The two magic keys. -/
inductive MagicSide where
  | left
  | right
  deriving DecidableEq

namespace MagicSide

/-- The name of a side. -/
def name : MagicSide → String
  | left => "left"
  | right => "right"

/-- The magic key of a side. -/
def trigger : MagicSide → Key
  | left => .magicLeft
  | right => .magicRight

/-- The side of a magic key. -/
def ofTrigger? : Key → Option MagicSide
  | .magicLeft => some left
  | .magicRight => some right
  | _ => none

end MagicSide

/-- The left magic key: common word tails, and the marks that end a sentence,
first a full stop and then a question mark in its place. -/
def leftTable : KeyTable Expansion where
  name := "magic-left"
  entries :=
    [(.a, { text := "nd " }),
      (.e, { text := "ver " }),
      (.h, { text := "ere " }),
      (.i, { text := "'m " }),
      (.o, { text := "ur " }),
      (.t, { text := "hat " }),
      (.w, { text := "ith " }),
      (.y, { text := "es " }),
      (.n, { text := "ess ", repeatKey? := some .e }),
      (.l, { text := "ess ", repeatKey? := some .n }),
      (.m, { text := "ent ", repeatKey? := some .s }),
      (.space, { text := ". ", repeatKey? := some .magicPeriod, backspaces := 1 }),
      (.magicPeriod, { text := "? ", backspaces := 2 })]

/-- The right magic key: words that begin with the remembered letter. -/
def rightTable : KeyTable Expansion where
  name := "magic-right"
  entries :=
    [(.a, { text := "ll " }),
      (.b, { text := "ecause " }),
      (.c, { text := "ould " }),
      (.d, { text := "oes " }),
      (.e, { text := "very " }),
      (.f, { text := "rom " }),
      (.g, { text := "ood " }),
      (.h, { text := "ave " }),
      (.i, { text := "ng " }),
      (.j, { text := "ust " }),
      (.k, { text := "now " }),
      (.m, { text := "ent " }),
      (.n, { text := "ion ", repeatKey? := some .s }),
      (.p, { text := "eople " }),
      (.q, { text := "uestion " }),
      (.s, { text := "ion ", repeatKey? := some .s }),
      (.t, { text := "ion ", repeatKey? := some .s }),
      (.w, { text := "hich " }),
      (.y, { text := "ou " }),
      (.space, { text := "the ", repeatKey? := some .n })]

/-- The table of a side. -/
def MagicSide.table : MagicSide → KeyTable Expansion
  | left => leftTable
  | right => rightTable

/-- The expansion of a remembered key. One that was typed in a shortcut has
none. -/
def MagicSide.expand (side : MagicSide) (remembered : Key) (mods : ModMask) : Option Expansion :=
  if mods.hasNonShift then none else side.table.find? remembered

/-- Letters that avoid using the same finger twice. -/
def bigramTable : KeyTable String where
  name := "altrep-sfb"
  entries :=
    [(.a, "o"), (.o, "a"), (.e, "u"), (.u, "e"), (.i, "a"),
      (.r, "l"), (.l, "r"), (.n, "t"), (.t, "h"), (.s, "t")]

/-- Endings that complete a word. -/
def completionTable : KeyTable String where
  name := "altrep-completion"
  entries :=
    [(.m, "ent"), (.t, "ion"), (.s, "ion"), (.n, "ess"), (.l, "ess"),
      (.i, "on"), (.r, "ight"), (.w, "ith"), (.h, "ere"), (.a, "nd")]

/-- The table of an alternate-repeat key. -/
def alternateTable? : Key → Option (KeyTable String)
  | .altRepeat1 => some bigramTable
  | .altRepeat2 => some completionTable
  | _ => none

/-- What a word key types and the key that memory holds afterwards. -/
structure WordMacro where
  text : String
  repeatKey : Key
  deriving DecidableEq

/-- The texts of the word keys. -/
def wordTable : KeyTable WordMacro where
  name := "word-macros"
  entries :=
    [(.wordThe, ⟨"the ", .n⟩),
      (.wordIon, ⟨"ion ", .s⟩),
      (.wordTion, ⟨"tion ", .s⟩),
      (.wordSion, ⟨"sion ", .s⟩),
      (.wordMent, ⟨"ment ", .s⟩),
      (.wordNess, ⟨"ness ", .e⟩),
      (.wordLess, ⟨"less ", .n⟩),
      (.wordEnce, ⟨"ence ", .s⟩),
      (.wordAnce, ⟨"ance ", .s⟩)]

end Keymap
