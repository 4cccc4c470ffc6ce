import RespClient.Decimal.Integer

/-!
# Shortest decimals of binary fractions

A finite binary number stands for every real number that rounds to it. It is
written with the fewest digits that lie in that interval; of two such decimals
the nearer one is taken, and the upper one if both are equally near.
-/

namespace RespClient.Decimal

/-- The widths of the fields of an interchange format, and how many decimal digits always suffice
to tell its numbers apart. -/
structure Format where
  fractionBits : Nat
  exponentBits : Nat
  decimalDigits : Nat

def Format.single : Format := ⟨23, 8, 9⟩

def Format.double : Format := ⟨52, 11, 17⟩

/-- The number `mantissa * 2 ^ exponent`. At the lower end of a binade the neighbour below is only
half as far away as the one above. -/
structure Scaled where
  mantissa : Nat
  exponent : Int
  lowerEnd : Bool

inductive Class where
  | finite (value : Scaled)
  | infinite
  | nan

structure Parts where
  negative : Bool
  magnitude : Class

def Format.parts (format : Format) (bits : Nat) : Parts :=
  let fraction := bits % Nat.pow 2 format.fractionBits
  let field := bits / Nat.pow 2 format.fractionBits % Nat.pow 2 format.exponentBits
  let negative := bits / Nat.pow 2 (format.fractionBits + format.exponentBits) % 2 = 1
  let lowest : Int := 2 - Nat.pow 2 (format.exponentBits - 1) - format.fractionBits
  if field = Nat.pow 2 format.exponentBits - 1 then
    ⟨negative, if fraction = 0 then .infinite else .nan⟩
  else if field = 0 then
    ⟨negative, .finite ⟨fraction, lowest, false⟩⟩
  else
    ⟨negative, .finite ⟨Nat.pow 2 format.fractionBits + fraction, lowest + (field - 1),
      fraction = 0 ∧ 1 < field⟩⟩

/-- The decimal `coefficient * 10 ^ exponent`. -/
structure Number where
  coefficient : Nat
  exponent : Int

/-- A value with the interval of reals that round to it, over a common denominator. -/
structure Interval where
  value : Nat
  low : Nat
  high : Nat
  denominator : Nat
  closed : Bool

def Scaled.interval (scaled : Scaled) : Interval :=
  let quarters := 4 * scaled.mantissa
  let low := if scaled.lowerEnd then quarters - 1 else quarters - 2
  let factor := Nat.pow 2 (scaled.exponent - 2).toNat
  { value := quarters * factor
    low := low * factor
    high := (quarters + 2) * factor
    denominator := Nat.pow 2 (2 - scaled.exponent).toNat
    closed := scaled.mantissa % 2 = 0 }

/-- The same interval in units of `10 ^ exponent`. -/
def Interval.scale (interval : Interval) (exponent : Int) : Interval :=
  let raise := Nat.pow 10 (-exponent).toNat
  { interval with
    value := interval.value * raise
    low := interval.low * raise
    high := interval.high * raise
    denominator := interval.denominator * Nat.pow 10 exponent.toNat }

def Interval.holds (interval : Interval) (unit : Nat) : Bool :=
  let point := unit * interval.denominator
  if interval.closed then interval.low ≤ point && point ≤ interval.high
  else interval.low < point && point < interval.high

/-- Of the two units around the value, the nearer one that the interval holds. -/
def Interval.nearest? (interval : Interval) : Option Nat :=
  let below := interval.value / interval.denominator
  let above := below + 1
  match interval.holds below, interval.holds above with
  | true, true =>
      if 2 * interval.value < (below + above) * interval.denominator then some below
      else some above
  | true, false => some below
  | false, true => some above
  | false, false => none

/-- A power of ten that is not below the value. -/
def Interval.ceilingExponent (interval : Interval) : Int :=
  if interval.denominator ≤ interval.value then
    (digits (interval.value / interval.denominator)).length
  else 2 - (digits (interval.denominator / interval.value)).length

def Interval.search (interval : Interval) : (grids : Nat) → (exponent : Int) → Number
  | 0, exponent =>
      let finest := interval.scale exponent
      ⟨finest.value / finest.denominator, exponent⟩
  | grids + 1, exponent =>
      match (interval.scale exponent).nearest? with
      | some units => ⟨units, exponent⟩
      | none => interval.search grids (exponent - 1)

def Scaled.shortest (format : Format) (scaled : Scaled) : Number :=
  if scaled.mantissa = 0 then ⟨0, 0⟩
  else
    let interval := scaled.interval
    interval.search (format.decimalDigits + 2) interval.ceilingExponent

/-- Digits with a point where it is needed, and never an exponent. -/
def Number.positional (number : Number) : List Char :=
  let shown := digits number.coefficient
  let places := (-number.exponent).toNat
  if places = 0 then
    shown ++ List.replicate number.exponent.toNat '0'
  else if places < shown.length then
    shown.take (shown.length - places) ++ '.' :: shown.drop (shown.length - places)
  else
    '0' :: '.' :: List.replicate (places - shown.length) '0' ++ shown

/-- Zero and infinity keep their sign; a NaN has none. -/
def Format.print (format : Format) (bits : Nat) : List Char :=
  let parts := format.parts bits
  let sign := if parts.negative then ['-'] else []
  match parts.magnitude with
  | .finite scaled => sign ++ (scaled.shortest format).positional
  | .infinite => sign ++ ['i', 'n', 'f']
  | .nan => ['N', 'a', 'N']

end RespClient.Decimal
