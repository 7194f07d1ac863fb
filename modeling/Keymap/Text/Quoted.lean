import Keymap.Text.Shapeless

/-!
# Quoted text

A text between double quotes, with escapes for the quote, the backslash and
whatever would not show: `\t`, `\r`, `\n`, `\0`, and the code in hexadecimal
for every other character without a shape of its own.

- `quoteChar`: how one character is written.
- `quoted`: the text between its quotes.
-/

namespace Keymap.Text

/-- How a character is written inside a quoted text. -/
def quoteChar (c : Char) : List Char :=
  if c = '\x22' then ['\\', '\x22']
  else if c = '\\' then ['\\', '\\']
  else if c = '\t' then ['\\', 't']
  else if c = '\r' then ['\\', 'r']
  else if c = '\n' then ['\\', 'n']
  else if c = '\x00' then ['\\', '0']
  else if isShapeless c then ['\\', 'u', '\x7b'] ++ Nat.toDigits 16 c.toNat ++ ['\x7d']
  else [c]

/-- The text between double quotes, with escapes. -/
def quoted (s : String) : String :=
  "\"" ++ String.ofList (s.toList.flatMap quoteChar) ++ "\""

end Keymap.Text
