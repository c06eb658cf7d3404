import DeckPress.Decimal.Binary64

/-!
The shortest decimal that reads back as the same double. All reals nearer to a double than to its
neighbours form an interval; its ends belong to it when the mantissa is even. The decimals with n
digits form a grid, and the first grid of seventeen that has a point in the interval gives the
digits. The search is exact: it compares natural numbers only.
-/

namespace DeckPress.Decimal

/-- The reals that round to a positive double, and the double itself, over one denominator. -/
structure Rounding where
  lower : Nat
  value : Nat
  upper : Nat
  denominator : Nat
  closed : Bool

namespace Rounding

/-- The interval around `mantissa * 2 ^ exponent`. Below a power of two the neighbours stand twice
as close, except at the bottom of the range. -/
def ofParts (mantissa : Nat) (exponent : Int) : Rounding :=
  let below := if mantissa = twoTo 52 ∧ exponent > -1074 then 1 else 2
  let quarter := exponent - 2
  let scale := twoTo quarter.toNat
  { lower := (4 * mantissa - below) * scale
    value := 4 * mantissa * scale
    upper := (4 * mantissa + 2) * scale
    denominator := twoTo (-quarter).toNat
    closed := mantissa % 2 = 0 }

def holds (r : Rounding) (factor step n : Nat) : Bool :=
  let point := n * step
  let low := r.lower * factor
  let high := r.upper * factor
  (low < point && point < high) || (r.closed && (low == point || point == high))

/-- The point of the grid `10 ^ power` that the interval holds, the nearer one of two, and the
even one when the double lies midway. -/
def onGrid? (r : Rounding) (power : Int) : Option Nat :=
  let factor := tenTo (-power).toNat
  let step := r.denominator * tenTo power.toNat
  let value := r.value * factor
  let down := value / step
  let up := down + 1
  match r.holds factor step down, r.holds factor step up with
  | true, true =>
    let rest := value - down * step
    if 2 * rest < step then some down
    else if step < 2 * rest then some up
    else if down % 2 = 0 then some down else some up
  | true, false => some down
  | false, true => some up
  | false, false => none

def wholeDigits : Nat → Nat → Nat → Nat
  | 0, _, _ => 0
  | fuel + 1, value, denominator =>
    if value < denominator then 0 else wholeDigits fuel value (denominator * 10) + 1

def leadingZeros : Nat → Nat → Nat → Nat
  | 0, _, _ => 0
  | fuel + 1, value, denominator =>
    if value * 10 < denominator then leadingZeros fuel (value * 10) denominator + 1 else 0

/-- The number of digits before the point; nought or less counts zeros after it. The bound covers
every double: the largest has 309 digits, the smallest 323 zeros. -/
def pointPosition (r : Rounding) : Int :=
  if r.denominator ≤ r.value then wholeDigits 400 r.value r.denominator
  else -(leadingZeros 400 r.value r.denominator : Int)

def search (r : Rounding) (point : Int) : Nat → Nat → Nat × Int
  | 0, digits => (r.value * tenTo ((digits : Int) - point).toNat / r.denominator, point - digits)
  | rest + 1, digits =>
    match r.onGrid? (point - digits) with
    | some n => (n, point - digits)
    | none => search r point rest (digits + 1)

/-- The fewest digits that read back, and the power of ten that they stand for. -/
def shortest (r : Rounding) : Nat × Int :=
  r.search r.pointPosition 17 1

end Rounding

def significant (digits : Nat) : List Char :=
  ((Nat.toDigits 10 digits).reverse.dropWhile (· == '0')).reverse

structure PointStyle where
  /-- Positional while more than this many digits stand before the point. -/
  above : Int
  /-- Positional up to this many digits before the point. -/
  upTo : Int
  /-- The least number of digits in an exponent. -/
  exponentDigits : Nat
  nan : String
  infinite : String

/-- Positional from 0.0001 to below 10^16, a digit on each side of the point, exponents with sign
and two digits. -/
def doubleStyle : PointStyle :=
  { above := -4, upTo := 16, exponentDigits := 2, nan := "nan", infinite := "inf" }

def PointStyle.layOut (n : PointStyle) (digits : List Char) (point : Int) : List Char :=
  if n.above < point ∧ point ≤ n.upTo then
    if point ≤ 0 then
      ['0', '.'] ++ List.replicate (-point).toNat '0' ++ digits
    else if digits.length ≤ point.toNat then
      digits ++ List.replicate (point.toNat - digits.length) '0' ++ ['.', '0']
    else
      digits.take point.toNat ++ '.' :: digits.drop point.toNat
  else
    let exponent := point - 1
    let size := Nat.toDigits 10 exponent.natAbs
    let fraction := match digits.drop 1 with
      | [] => []
      | rest => '.' :: rest
    digits.take 1 ++ fraction ++ 'e' :: (if exponent < 0 then '-' else '+') ::
      (List.replicate (n.exponentDigits - size.length) '0' ++ size)

def write (x : Float) : String :=
  let sign (negative : Bool) : List Char := if negative then ['-'] else []
  match Binary64.ofFloat x with
  | .nan => doubleStyle.nan
  | .infinite negative => String.ofList (sign negative ++ doubleStyle.infinite.toList)
  | .finite negative mantissa exponent =>
    if mantissa = 0 then String.ofList (sign negative ++ ['0', '.', '0'])
    else
      let (digits, power) := (Rounding.ofParts mantissa exponent).shortest
      let point := (Nat.toDigits 10 digits).length + power
      String.ofList (sign negative ++ doubleStyle.layOut (significant digits) point)

end DeckPress.Decimal
