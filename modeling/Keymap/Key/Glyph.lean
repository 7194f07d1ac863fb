import Keymap.Key.Basic

/-!
# Glyphs

The characters that a host with the US layout produces for a key.

- `Key.glyphs`: the plain and the shifted character.
- `Key.char?`: the character for a state of the shift keys.
-/

namespace Keymap.Key

/-- The plain and the shifted character of a key, if it types one. -/
def glyphs : Key → Option (Char × Char)
  | a => some ('a', 'A') | b => some ('b', 'B') | c => some ('c', 'C')
  | d => some ('d', 'D') | e => some ('e', 'E') | f => some ('f', 'F')
  | g => some ('g', 'G') | h => some ('h', 'H') | i => some ('i', 'I')
  | j => some ('j', 'J') | k => some ('k', 'K') | l => some ('l', 'L')
  | m => some ('m', 'M') | n => some ('n', 'N') | o => some ('o', 'O')
  | p => some ('p', 'P') | q => some ('q', 'Q') | r => some ('r', 'R')
  | s => some ('s', 'S') | t => some ('t', 'T') | u => some ('u', 'U')
  | v => some ('v', 'V') | w => some ('w', 'W') | x => some ('x', 'X')
  | y => some ('y', 'Y') | z => some ('z', 'Z')
  | digit1 => some ('1', '!') | digit2 => some ('2', '@') | digit3 => some ('3', '#')
  | digit4 => some ('4', '$') | digit5 => some ('5', '%') | digit6 => some ('6', '^')
  | digit7 => some ('7', '&') | digit8 => some ('8', '*') | digit9 => some ('9', '(')
  | digit0 => some ('0', ')')
  | minus => some ('-', '_')
  | underscore => some ('_', '_')
  | equal => some ('=', '+')
  | comma => some (',', '<')
  | dot => some ('.', '>')
  | slash => some ('/', '?')
  | question => some ('?', '?')
  | exclaim => some ('!', '!')
  | semicolon => some (';', ':')
  | colon => some (':', ':')
  | apostrophe => some ('\x27', '\x22')
  | doubleQuote => some ('\x22', '\x22')
  | grave => some ('\x60', '~')
  | leftBracket => some ('[', '\x7b')
  | rightBracket => some (']', '\x7d')
  | backslash => some ('\\', '|')
  | space => some (' ', ' ')
  | enter => some ('\n', '\n')
  | tab => some ('\t', '\t')
  | _ => none

/-- The character that a key types with or without shift. -/
def char? (key : Key) (shifted : Bool) : Option Char :=
  key.glyphs.map fun (plain, upper) => if shifted then upper else plain

end Keymap.Key
