/-!
# TOML values

- `Value`: what a TOML document holds.
- `TableForm`: how a table was written, which decides what may be added to it.
- `Value.items?`: the members of an array, whichever way it was written.
-/

namespace Keymap.Toml

/-- How a table was written. -/
inductive TableForm where
  /-- Between braces. Nothing can be added. -/
  | inline
  /-- Under its own header, or the document itself. -/
  | headed
  /-- Only as a part of the path in a header. -/
  | implied
  /-- Only as a part of a dotted key. -/
  | dotted
  deriving DecidableEq

/-- What a TOML document holds. -/
inductive Value where
  | text (chars : String)
  | integer (n : Int)
  /-- A number with a fraction or an exponent, infinity or no number, as it is
  written. -/
  | float (spelling : String)
  | boolean (b : Bool)
  /-- A date, a time or both, as it is written. -/
  | moment (spelling : String)
  /-- Values between brackets. -/
  | array (values : List Value)
  | table (form : TableForm) (entries : List (String × Value))
  /-- Tables that each stand under a header in double brackets: the newest, and
  the older ones, the last of them first. -/
  | tables (newest : List (String × Value)) (older : List (List (String × Value)))

/-- The entries of a table, in the order in which they were begun. -/
abbrev Entries := List (String × Value)

/-- The members of an array, in order. -/
def Value.items? : Value → Option (List Value)
  | array values => some values
  | tables newest older => some ((newest :: older).reverse.map (table .headed))
  | _ => none

end Keymap.Toml
