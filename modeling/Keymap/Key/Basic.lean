/-!
# Keys

The closed set of keys that the keymap knows: keys that a host knows as well,
and keys that exist only inside the keymap (magic triggers, word macros, mode
toggles, home-row mod-taps).

- `Key`: the keys.
- `Key.all`: every key once, in keymap order; `Key.index` is the place in it.
-/

namespace Keymap

/-- A logical key. -/
inductive Key where
  /-- No key: what an empty memory remembers. -/
  | noKey
  | a | b | c | d | e | f | g | h | i | j | k | l | m
  | n | o | p | q | r | s | t | u | v | w | x | y | z
  | digit1 | digit2 | digit3 | digit4 | digit5
  | digit6 | digit7 | digit8 | digit9 | digit0
  | minus | underscore | equal | comma | dot | slash | question | exclaim
  | semicolon | colon | apostrophe | doubleQuote | grave
  | leftBracket | rightBracket | backslash
  | space | enter | tab | escape | backspace | delete
  | left | right | up | down | home | endKey | pageUp | pageDown
  | leftShift | rightShift | leftCtrl | rightCtrl
  | leftAlt | rightAlt | leftGui | rightGui
  /-- Expands the remembered key with the left table. -/
  | magicLeft
  /-- Expands the remembered key with the right table. -/
  | magicRight
  /-- Alternate repeat that avoids a same-finger bigram. -/
  | altRepeat1
  /-- Alternate repeat that completes a word. -/
  | altRepeat2
  /-- Types `qu` when tapped and `q` when held. -/
  | qu
  /-- Types `v` after a vowel and `h` otherwise. -/
  | hvSwitch
  /-- Types `h` after a vowel and `v` otherwise. -/
  | hvSwitchReverse
  /-- An apostrophe inside a word, a pair of double quotes elsewhere. -/
  | quotePair
  | capsWordToggle
  | sentenceCaseOn
  | sentenceCaseToggle
  /-- What memory holds after the left magic key has typed a full stop. -/
  | magicPeriod
  | wordThe | wordIon | wordTion | wordSion | wordMent
  | wordNess | wordLess | wordEnce | wordAnce
  | homeN | homeS | homeH | homeD | homeA | homeE | homeI | homeW | homeComma
  deriving DecidableEq

namespace Key

/-- Every key, in keymap order. -/
def all : List Key :=
  [noKey, a, b, c, d, e, f, g, h, i, j, k, l, m, n, o, p, q, r, s, t, u, v, w, x, y, z,
    digit1, digit2, digit3, digit4, digit5, digit6, digit7, digit8, digit9, digit0,
    minus, underscore, equal, comma, dot, slash, question, exclaim, semicolon, colon,
    apostrophe, doubleQuote, grave, leftBracket, rightBracket, backslash,
    space, enter, tab, escape, backspace, delete,
    left, right, up, down, home, endKey, pageUp, pageDown,
    leftShift, rightShift, leftCtrl, rightCtrl, leftAlt, rightAlt, leftGui, rightGui,
    magicLeft, magicRight, altRepeat1, altRepeat2, qu, hvSwitch, hvSwitchReverse,
    quotePair, capsWordToggle, sentenceCaseOn, sentenceCaseToggle, magicPeriod,
    wordThe, wordIon, wordTion, wordSion, wordMent, wordNess, wordLess, wordEnce, wordAnce,
    homeN, homeS, homeH, homeD, homeA, homeE, homeI, homeW, homeComma]

theorem mem_all (key : Key) : key ∈ all := by
  cases key <;> decide

/-- The place of a key in keymap order. -/
def index (key : Key) : Nat :=
  all.idxOf key

instance : Inhabited Key where
  default := noKey

end Key

end Keymap
