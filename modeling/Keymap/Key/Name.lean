import Keymap.Key.Basic
import Keymap.Text.Case

/-!
# Key names

Every key has one canonical name, in capitals, and may have shorter names
besides. A name is read without regard to case.

- `Key.name`: the canonical name.
- `Key.aliases`: the other names that are read as this key.
- `Key.ofName?`: the key that a name stands for.
-/

namespace Keymap.Key

/-- The canonical name of a key. -/
def name : Key → String
  | noKey => "NO"
  | a => "A" | b => "B" | c => "C" | d => "D" | e => "E" | f => "F" | g => "G"
  | h => "H" | i => "I" | j => "J" | k => "K" | l => "L" | m => "M" | n => "N"
  | o => "O" | p => "P" | q => "Q" | r => "R" | s => "S" | t => "T" | u => "U"
  | v => "V" | w => "W" | x => "X" | y => "Y" | z => "Z"
  | digit1 => "KEY_1" | digit2 => "KEY_2" | digit3 => "KEY_3" | digit4 => "KEY_4"
  | digit5 => "KEY_5" | digit6 => "KEY_6" | digit7 => "KEY_7" | digit8 => "KEY_8"
  | digit9 => "KEY_9" | digit0 => "KEY_0"
  | minus => "MINUS"
  | underscore => "UNDERSCORE"
  | equal => "EQUAL"
  | comma => "COMMA"
  | dot => "DOT"
  | slash => "SLASH"
  | question => "QUESTION"
  | exclaim => "EXCLAIM"
  | semicolon => "SEMICOLON"
  | colon => "COLON"
  | apostrophe => "APOSTROPHE"
  | doubleQuote => "DOUBLE_QUOTE"
  | grave => "GRAVE"
  | leftBracket => "LEFT_BRACE"
  | rightBracket => "RIGHT_BRACE"
  | backslash => "BACKSLASH"
  | space => "SPACE"
  | enter => "ENTER"
  | tab => "TAB"
  | escape => "ESCAPE"
  | backspace => "BACKSPACE"
  | delete => "DELETE"
  | left => "LEFT" | right => "RIGHT" | up => "UP" | down => "DOWN"
  | home => "HOME" | endKey => "END" | pageUp => "PAGE_UP" | pageDown => "PAGE_DOWN"
  | leftShift => "LEFT_SHIFT" | rightShift => "RIGHT_SHIFT"
  | leftCtrl => "LEFT_CTRL" | rightCtrl => "RIGHT_CTRL"
  | leftAlt => "LEFT_ALT" | rightAlt => "RIGHT_ALT"
  | leftGui => "LEFT_GUI" | rightGui => "RIGHT_GUI"
  | magicLeft => "MAGIC_LEFT"
  | magicRight => "MAGIC_RIGHT"
  | altRepeat1 => "ALTREP1"
  | altRepeat2 => "ALTREP2"
  | qu => "QU"
  | hvSwitch => "HV_SWITCH"
  | hvSwitchReverse => "HV_SWITCH_REVERSE"
  | quotePair => "QUOTE_PAIR"
  | capsWordToggle => "CAPS_WORD_TOGGLE"
  | sentenceCaseOn => "SENTENCE_CASE_ON"
  | sentenceCaseToggle => "SENTENCE_CASE_TOGGLE"
  | magicPeriod => "MAGIC_PERIOD"
  | wordThe => "M_THE" | wordIon => "M_ION" | wordTion => "M_TION"
  | wordSion => "M_SION" | wordMent => "M_MENT" | wordNess => "M_NESS"
  | wordLess => "M_LESS" | wordEnce => "M_ENCE" | wordAnce => "M_ANCE"
  | homeN => "HRM_N" | homeS => "HRM_S" | homeH => "HRM_H" | homeD => "HRM_D"
  | homeA => "HRM_A" | homeE => "HRM_E" | homeI => "HRM_I" | homeW => "HRM_W"
  | homeComma => "HRM_COMM"

/-- The names other than the canonical one that are read as this key. -/
def aliases : Key → List String
  | noKey => ["NONE"]
  | digit1 => ["1"] | digit2 => ["2"] | digit3 => ["3"] | digit4 => ["4"]
  | digit5 => ["5"] | digit6 => ["6"] | digit7 => ["7"] | digit8 => ["8"]
  | digit9 => ["9"] | digit0 => ["0"]
  | minus => ["-"]
  | underscore => ["_", "UNDS"]
  | equal => ["="]
  | comma => [","]
  | dot => ["."]
  | slash => ["/"]
  | question => ["?", "QUES"]
  | exclaim => ["!", "EXLM"]
  | semicolon => [";", "SCLN"]
  | colon => [":", "COLN"]
  | apostrophe => ["'", "QUOT"]
  | doubleQuote => ["\"", "DQUO"]
  | grave => ["\x60"]
  | leftBracket => ["["]
  | rightBracket => ["]"]
  | backslash => ["\\"]
  | space => ["SPC"]
  | enter => ["ENT", "RETURN"]
  | escape => ["ESC"]
  | backspace => ["BSPC"]
  | delete => ["DEL"]
  | leftShift => ["LSFT"] | rightShift => ["RSFT"]
  | leftCtrl => ["LCTL"] | rightCtrl => ["RCTL"]
  | leftAlt => ["LALT"] | rightAlt => ["RALT"]
  | leftGui => ["LGUI"] | rightGui => ["RGUI"]
  | altRepeat1 => ["ALT_REP1"]
  | altRepeat2 => ["ALT_REP2"]
  | capsWordToggle => ["CW_TOGG"]
  | _ => []

/-- The key that a name stands for, if any: its canonical name or an alias, in
any mixture of capitals and small letters. -/
def ofName? (s : String) : Option Key :=
  all.find? fun key => (key.name :: key.aliases).any (Text.sameName s)

end Keymap.Key
