import Keymap.Toml.Text

/-!
# TOML numbers

- `integer`: a whole number of 64 bits, in base ten with a sign, or in base
  sixteen, eight or two without one.
- `float`: a number with a fraction or an exponent, infinity, or no number.

An underscore may stand between two digits.
-/

namespace Keymap.Toml

open Reader

/-- Digits of a class, with single underscores between them. -/
def digits (isDigit : Char → Bool) : Reader (List Char) := do
  let first ← satisfy isDigit
  let more ← many do
    let _ ← optional? (char '_')
    satisfy isDigit
  return first :: more

/-- A sign, if there is one; says whether it is a minus. -/
def sign : Reader Bool := do
  let mark ← optional? (satisfy fun c => c == '+' || c == '-')
  return mark == some '-'

/-- Decimal digits without a leading zero. -/
def wholeDigits : Reader (List Char) := do
  let zero ← optional? (char '0')
  if zero.isSome then return ['0'] else digits Char.isDigit

/-! ## Integers -/

/-- An integer in a base that is marked by a letter after a zero. -/
def marked (mark : Char) (base : Nat) (isDigit : Char → Bool) : Reader Int := do
  word ['0', mark]
  return valueIn base (← digits isDigit)

/-- An integer in base ten. -/
def decimal : Reader Int := do
  let negative ← sign
  let n := valueIn 10 (← wholeDigits)
  return if negative then -n else n

/-- An integer of 64 bits. -/
def integer : Reader Int := do
  let n ← marked 'x' 16 isHexDigit <|> marked 'o' 8 (fun c => '0' ≤ c && c ≤ '7') <|>
    marked 'b' 2 (fun c => c == '0' || c == '1') <|> decimal
  guard (Int64.minValue.toInt ≤ n ∧ n ≤ Int64.maxValue.toInt)
  return n

/-! ## Floats -/

/-- Whether `n · 10 ^ e` is too large for a double: it lies beyond the middle
between the largest finite one and `2 ^ 1024`. -/
def exceedsDouble (n : Nat) (e : Int) : Bool :=
  let bound := (Nat.pow 2 54 - 1) * Nat.pow 2 970
  let size := (Nat.toDigits 10 n).length + e
  if n = 0 || size < 309 then false
  else if 309 < size then true
  else if 0 ≤ e then bound ≤ n * Nat.pow 10 e.toNat
  else bound * Nat.pow 10 (-e).toNat ≤ n

/-- The exponent of a float. -/
def exponent : Reader Int := do
  let _ ← satisfy fun c => c == 'e' || c == 'E'
  let negative ← sign
  let n := valueIn 10 (← digits Char.isDigit)
  return if negative then -n else n

/-- A float in figures. It has a fraction, an exponent or both, and is not above
the range of doubles. -/
def figures : Reader Unit := do
  let negative ← sign
  let whole ← wholeDigits
  let fraction ← optional? do
    char '.'
    digits Char.isDigit
  let power ← optional? exponent
  guard (fraction.isSome || power.isSome)
  let decimals := fraction.getD []
  guard (negative ||
    !exceedsDouble (valueIn 10 (whole ++ decimals)) (power.getD 0 - decimals.length))

/-- Infinity or no number. -/
def special : Reader Unit := do
  let _ ← sign
  word ['i', 'n', 'f'] <|> word ['n', 'a', 'n']

/-- A float, as it is written. -/
def float : Reader String :=
  spelling (figures <|> special)

end Keymap.Toml
