import Keymap.Key.Basic

/-!
# Classes of keys

The predicates by which the trackers, the gates and the handlers tell keys
apart. Sentence case, caps word and the quote helper share one notion of
letter, `Key.isLetterClass`.

- `Key.isLetter`, `Key.isDigit`, `Key.isVowel`: what the key is engraved with.
- `Key.isModifier`, `Key.isNavigation`, `Key.isDeletion`: keys that edit or
  modify and type nothing.
- `Key.isMagicTrigger`, `Key.isAltRepeat`, `Key.isWordMacro`,
  `Key.isLetterMacro`, `Key.isModTap`: keys with a handler of their own.
- `Key.isLetterClass`: letters and the keys whose output starts with one.
- `Key.isSynthetic`: keys that never reach the host.
-/

namespace Keymap.Key

/-- A plain letter, `A` to `Z`. -/
def isLetter : Key → Bool
  | a | b | c | d | e | f | g | h | i | j | k | l | m => true
  | n | o | p | q | r | s | t | u | v | w | x | y | z => true
  | _ => false

/-- A digit of the number row. -/
def isDigit : Key → Bool
  | digit1 | digit2 | digit3 | digit4 | digit5 => true
  | digit6 | digit7 | digit8 | digit9 | digit0 => true
  | _ => false

/-- A vowel, for the switch between `h` and `v`. -/
def isVowel : Key → Bool
  | a | e | i | o | u => true
  | _ => false

/-- One of the eight modifier keys. -/
def isModifier : Key → Bool
  | leftShift | rightShift | leftCtrl | rightCtrl => true
  | leftAlt | rightAlt | leftGui | rightGui => true
  | _ => false

/-- A key that moves the cursor. -/
def isNavigation : Key → Bool
  | left | right | up | down | home | endKey | pageUp | pageDown => true
  | _ => false

/-- A key that deletes a character. -/
def isDeletion : Key → Bool
  | backspace | delete => true
  | _ => false

/-- The left or the right magic trigger. -/
def isMagicTrigger : Key → Bool
  | magicLeft | magicRight => true
  | _ => false

/-- An alternate-repeat trigger. -/
def isAltRepeat : Key → Bool
  | altRepeat1 | altRepeat2 => true
  | _ => false

/-- A key that types a fixed word ending. -/
def isWordMacro : Key → Bool
  | wordThe | wordIon | wordTion | wordSion | wordMent => true
  | wordNess | wordLess | wordEnce | wordAnce => true
  | _ => false

/-- A keymap key that types a single letter or a pair of letters. -/
def isLetterMacro : Key → Bool
  | qu | hvSwitch | hvSwitchReverse => true
  | _ => false

/-- A home-row mod-tap. -/
def isModTap : Key → Bool
  | homeN | homeS | homeH | homeD | homeA | homeE | homeI | homeW | homeComma => true
  | _ => false

/-- Letters and the keymap keys whose output starts with a letter. -/
def isLetterClass (key : Key) : Bool :=
  key.isLetter || key.isMagicTrigger || key.isAltRepeat || key.isWordMacro || key.isLetterMacro

/-- A key that exists only inside the keymap and never reaches the host. -/
def isSynthetic : Key → Bool
  | noKey | quotePair | capsWordToggle | sentenceCaseOn | sentenceCaseToggle | magicPeriod => true
  | key => (key.isLetterClass && !key.isLetter) || key.isModTap

/-- A trigger that types text of its own choice. -/
def typesText (key : Key) : Bool :=
  key.isMagicTrigger || key.isAltRepeat || key.isWordMacro

end Keymap.Key
