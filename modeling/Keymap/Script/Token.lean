import Keymap.Text.Blank

/-!
# Script tokens

A script is a text of tokens between blanks. A `#` starts a comment that runs to
the end of the line.

- `uncomment`: a text without its comments.
- `tokens`: the tokens of a text, in order.
-/

namespace Keymap.Script

/-- The text without its comments; line ends stay. `inside` says whether the
text starts inside a comment. -/
def uncomment (inside : Bool) : List Char → List Char
  | [] => []
  | c :: rest =>
    if c = '\n' then c :: uncomment false rest
    else if inside || c = '#' then uncomment true rest
    else c :: uncomment false rest

/-- The tokens of a text. -/
def tokens (text : String) : List (List Char) :=
  Text.words (uncomment false text.toList)

end Keymap.Script
