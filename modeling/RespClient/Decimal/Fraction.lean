import RespClient.Decimal.Integer

/-!
# Reading decimal fractions

The texts that name a floating-point number: an optional sign, then `inf`,
`infinity` or `nan` in any case, or digits with an optional point and an optional
exponent. A number is rounded to the nearest binary64 value, ties to even. Digits
that follow an exponent already far beyond that range are passed over.
-/

namespace RespClient.Decimal

/-- Beyond these magnitudes every decimal rounds to infinity or to zero. -/
def overflowExponent : Int := 400

/-- The number `digits * 10 ^ exponent`, where `digits` has `length` digits. -/
def roundToFloat (digits length : Nat) (exponent : Int) : Float :=
  if digits = 0 then 0
  else if overflowExponent < exponent + length then Float.ofBits 0x7ff0000000000000
  else if exponent + length < -overflowExponent then 0
  else Float.ofScientific digits (exponent < 0) exponent.natAbs

/-- An exponent that has reached this value grows no further. -/
def exponentLimit : Nat := 0x10000

/-- One or more digits; those after the limit is reached change nothing. -/
def exponentOfDigits? (chars : List Char) : Option Nat :=
  if chars ≠ [] ∧ chars.all Char.isDigit then
    some (chars.foldl
      (fun value digit =>
        if value < exponentLimit then 10 * value + (digit.toNat - '0'.toNat) else value)
      0)
  else none

/-- An exponent is a marker, an optional sign and at least one digit; nothing is an exponent of
zero. -/
def exponent? : List Char → Option Int
  | [] => some 0
  | marker :: chars =>
      if marker = 'e' ∨ marker = 'E' then
        match chars with
        | '-' :: digits => (exponentOfDigits? digits).map fun value => -(value : Int)
        | '+' :: digits => (exponentOfDigits? digits).map fun value => (value : Int)
        | digits => (exponentOfDigits? digits).map fun value => (value : Int)
      else none

def number? (chars : List Char) : Option Float :=
  let whole := chars.takeWhile Char.isDigit
  let rest := chars.dropWhile Char.isDigit
  let (fraction, tail) := match rest with
    | '.' :: after => (after.takeWhile Char.isDigit, after.dropWhile Char.isDigit)
    | _ => ([], rest)
  let shown := whole ++ fraction
  if shown = [] then none
  else
    (exponent? tail).map fun exponent =>
      let significant := shown.dropWhile (· = '0')
      roundToFloat (Nat.ofDigitChars 10 significant 0) significant.length
        (exponent - fraction.length)

def magnitude? (chars : List Char) : Option Float :=
  let name := chars.map Char.toLower
  if name = ['i', 'n', 'f'] ∨ name = ['i', 'n', 'f', 'i', 'n', 'i', 't', 'y'] then
    some (Float.ofBits 0x7ff0000000000000)
  else if name = ['n', 'a', 'n'] then some (Float.ofBits 0x7ff8000000000000)
  else number? chars

def float? : List Char → Option Float
  | '-' :: chars => (magnitude? chars).map Float.neg
  | '+' :: chars => magnitude? chars
  | chars => magnitude? chars

end RespClient.Decimal
