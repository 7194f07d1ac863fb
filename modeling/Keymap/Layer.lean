import Keymap.Text.Case

/-!
# Layers and their colours

The layers of the keymap and the colour scheme that the keyboard's lights show
for each.

- `Layer`, `Layer.ofName?`, `Layer.ofIndex?`: the layers by name and number.
- `LedScheme`, `LedScheme.hsv?`: the schemes and their solid colours.
- `Layer.scheme`: the scheme of a layer.
-/

namespace Keymap

/-- A keymap layer. -/
inductive Layer where
  | base | sym | nav | num | func | mouse | empty6 | empty7 | empty8 | game
  deriving DecidableEq

namespace Layer

/-- Every layer, by number. -/
def all : List Layer :=
  [base, sym, nav, num, func, mouse, empty6, empty7, empty8, game]

theorem mem_all (layer : Layer) : layer ∈ all := by
  cases layer <;> decide

/-- The name of a layer. -/
def name : Layer → String
  | base => "base"
  | sym => "sym"
  | nav => "nav"
  | num => "num"
  | func => "func"
  | mouse => "mouse"
  | empty6 => "empty6"
  | empty7 => "empty7"
  | empty8 => "empty8"
  | game => "game"

/-- The number of a layer. -/
def index (layer : Layer) : Nat :=
  all.idxOf layer

/-- The layer with a number. -/
def ofIndex? (n : Nat) : Option Layer :=
  all[n]?

/-- The layer with a name, in any letter case. -/
def ofName? (s : String) : Option Layer :=
  all.find? fun layer => Text.sameName s layer.name

end Layer

/-- A colour: hue, saturation and value from 0 to 255. -/
structure Hsv where
  hue : Nat
  saturation : Nat
  value : Nat
  deriving DecidableEq

/-- A colour scheme of the keyboard's lights. -/
inductive LedScheme where
  | purple | magenta | coral | orange | cyan | green | blue
  /-- The animated scheme of caps word. -/
  | capsWord
  deriving DecidableEq

namespace LedScheme

/-- Every scheme. -/
def all : List LedScheme :=
  [purple, magenta, coral, orange, cyan, green, blue, capsWord]

/-- The name of a scheme. -/
def name : LedScheme → String
  | purple => "purple"
  | magenta => "magenta"
  | coral => "coral"
  | orange => "orange"
  | cyan => "cyan"
  | green => "green"
  | blue => "blue"
  | capsWord => "caps_word"

/-- The colour of a solid scheme; the animated one has none. -/
def hsv? : LedScheme → Option Hsv
  | purple => some ⟨191, 255, 255⟩
  | magenta => some ⟨213, 255, 255⟩
  | coral => some ⟨11, 176, 255⟩
  | orange => some ⟨21, 255, 255⟩
  | cyan => some ⟨128, 255, 255⟩
  | green => some ⟨85, 255, 255⟩
  | blue => some ⟨170, 255, 255⟩
  | capsWord => none

end LedScheme

/-- The scheme shown for a layer while caps word is off. -/
def Layer.scheme : Layer → LedScheme
  | base => .purple
  | sym => .magenta
  | nav => .coral
  | num => .orange
  | func => .cyan
  | mouse => .green
  | game => .blue
  | empty6 | empty7 | empty8 => .purple

end Keymap
