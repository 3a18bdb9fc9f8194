import CommandShell.Toml.Lexeme
import CommandShell.Toml.Node

/-!
# Numbers, dates and times

Integers have 64 bits with a sign. Digits with a fraction or an exponent are
refused when they round to positive infinity as a number of 64 binary digits. Dates
and times are checked against the calendar and the clock.
-/

namespace CommandShell.Toml

open Reader

/-- The number that digits write in a base. -/
def valueOf (base : Nat) (digits : List Char) : Nat :=
  digits.foldl (fun value c => base * value + (hexValue? c).getD 0) 0

/-- Digits of a class, with single underscores between them. -/
def digits (accepts : Char → Bool) : Reader (List Char) := do
  let first ← satisfy accepts
  let rest ← many (satisfy accepts <|> (char '_' *> satisfy accepts))
  return first :: rest

/-- A sign, and whether it is a minus. -/
def sign : Reader Bool :=
  (char '-' *> pure true) <|> (char '+' *> pure false) <|> pure false

/-- Decimal digits without a leading zero. -/
def plainDigits : Reader (List Char) := do
  let first ← satisfy Char.isDigit
  if first = '0' then
    return [first]
  else
    let rest ← many (satisfy Char.isDigit <|> (char '_' *> satisfy Char.isDigit))
    return first :: rest

/-! ## Integers -/

/-- An integer, if it has 64 bits. -/
def bounded (value : Int) : Reader Node := do
  ensure (Int64.minValue.toInt ≤ value && value ≤ Int64.maxValue.toInt)
  return .integer value

/-- An integer in another base, after the two characters that say which. -/
def based (mark : String) (base : Nat) (accepts : Char → Bool) : Reader Node := do
  word mark
  bounded (valueOf base (← digits accepts))

/-- An integer. -/
def integer : Reader Node :=
  based "0x" 16 (fun c => (hexValue? c).isSome)
    <|> based "0o" 8 (fun c => '0' ≤ c && c ≤ '7')
    <|> based "0b" 2 (fun c => c == '0' || c == '1')
    <|> do
      let negative ← sign
      let value := valueOf 10 (← plainDigits)
      bounded (if negative then -value else value)

/-! ## Numbers with a fraction or an exponent -/

/-- The least number that is rounded up past every finite number of 64 binary digits. -/
def floatBound : Nat := Nat.pow 2 1024 - Nat.pow 2 970

/-- Whether a number of decimal digits, scaled by a power of ten, rounds to infinity. -/
def overflows (significant : List Char) (exponent : Int) : Bool :=
  let significant := significant.dropWhile (· == '0')
  let magnitude := exponent + significant.length
  if significant = [] || magnitude < 309 then false
  else if 309 < magnitude then true
  else
    let value := valueOf 10 significant
    floatBound * Nat.pow 10 (-exponent).toNat ≤ value * Nat.pow 10 exponent.toNat

/-- The exponent of a number. -/
def exponent : Reader Int := do
  discard (char 'e' <|> char 'E')
  let negative ← sign
  let value := valueOf 10 (← digits Char.isDigit)
  return if negative then -value else value

/-- A number with a fraction or an exponent. -/
def decimal : Reader Node := do
  let negative ← sign
  let whole ← plainDigits
  let (fraction, scale) ←
    (do return (([] : List Char), ← exponent)) <|> do
      discard (char '.')
      let fraction ← digits Char.isDigit
      return (fraction, (← optional exponent).getD 0)
  ensure (negative || !overflows (whole ++ fraction) (scale - fraction.length))
  return .float

/-- Infinity by its name, or no number at all. -/
def special : Reader Node := do
  discard sign
  word "inf" <|> word "nan"
  return .float

/-- A number that is no integer. -/
def float : Reader Node :=
  decimal <|> special

/-! ## Dates and times -/

/-- A number of exactly this many digits, within bounds. -/
def fixed (width low high : Nat) : Reader Nat := do
  let digits ← (List.replicate width ()).mapM fun _ => satisfy Char.isDigit
  let value := valueOf 10 digits
  ensure (low ≤ value && value ≤ high)
  return value

/-- The number of days of a month. -/
def daysIn (year month : Nat) : Nat :=
  if month = 2 then
    if year % 4 = 0 ∧ (year % 100 ≠ 0 ∨ year % 400 = 0) then 29 else 28
  else if month = 4 ∨ month = 6 ∨ month = 9 ∨ month = 11 then 30
  else 31

/-- A date. -/
def date : Reader Unit := do
  let year ← fixed 4 0 9999
  discard (char '-')
  let month ← fixed 2 1 12
  discard (char '-')
  discard (fixed 2 1 (daysIn year month))

/-- A time of day; the second may be a leap second. -/
def time : Reader Unit := do
  discard (fixed 2 0 23)
  discard (char ':')
  discard (fixed 2 0 59)
  discard (char ':')
  discard (fixed 2 0 60)
  discard (optional do
    discard (char '.')
    discard (satisfy Char.isDigit)
    discard (spanning Char.isDigit))

/-- The difference of a time from that of Greenwich. -/
def zone : Reader Unit :=
  discard (char 'Z' <|> char 'z') <|> do
    discard (char '+' <|> char '-')
    discard (fixed 2 0 23)
    discard (char ':')
    discard (fixed 2 0 59)

/-- A date, a time, or both. -/
def moment : Reader Node := do
  (do
    date
    discard (optional do
      discard (char 'T' <|> char 't' <|> char ' ')
      time
      discard (optional zone)))
    <|> time
  return .moment

/-! ## Values that hold no others -/

/-- A truth value. -/
def boolean : Reader Node :=
  (word "true" *> pure (.boolean true)) <|> (word "false" *> pure (.boolean false))

/-- A value that holds no others. -/
def scalar : Reader Node :=
  (do return .text (← string)) <|> boolean <|> moment <|> float <|> integer

end CommandShell.Toml
