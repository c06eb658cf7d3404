import DeckPress.Decimal.Power

/-!
Doubles as numbers. A finite double is a mantissa times a power of two; all that is exact about
one (whether it is whole, its floor, its place in the order) is computed here from its bits in
integer arithmetic.
-/

namespace DeckPress.Decimal

/-- What the bits of a double say. A finite one is `mantissa * 2 ^ exponent`, with its sign. -/
inductive Binary64 where
  | nan
  | infinite (negative : Bool)
  | finite (negative : Bool) (mantissa : Nat) (exponent : Int)
  deriving DecidableEq, Repr

namespace Binary64

def ofFloat (x : Float) : Binary64 :=
  let bits := x.toBits.toNat
  let negative : Bool := twoTo 63 ≤ bits
  let exponentBits : Nat := bits / twoTo 52 % twoTo 11
  let fraction := bits % twoTo 52
  if exponentBits = 2047 then
    if fraction = 0 then .infinite negative else .nan
  else if exponentBits = 0 then .finite negative fraction (-1074)
  else .finite negative (fraction + twoTo 52) ((exponentBits : Int) - 1075)

def isFinite : Binary64 → Bool
  | .finite .. => true
  | _ => false

def signed (negative : Bool) (n : Nat) : Int :=
  if negative then -(n : Int) else n

def whole? : Binary64 → Option Int
  | .finite negative mantissa exponent =>
    if 0 ≤ exponent then some (signed negative (mantissa * twoTo exponent.toNat))
    else if mantissa % twoTo (-exponent).toNat = 0 then
      some (signed negative (mantissa / twoTo (-exponent).toNat))
    else none
  | _ => none

def floor : Binary64 → Int
  | .finite negative mantissa exponent =>
    if 0 ≤ exponent then signed negative (mantissa * twoTo exponent.toNat)
    else (signed negative mantissa).fdiv (twoTo (-exponent).toNat)
  | _ => 0

end Binary64

def isFinite (x : Float) : Bool :=
  (Binary64.ofFloat x).isFinite

/-- The place of a finite double in the order of numbers: its bits without the sign, negated for
negative doubles. Both zeros have place nought. -/
def rank (x : Float) : Int :=
  let bits := x.toBits.toNat
  if twoTo 63 ≤ bits then -((bits - twoTo 63 : Nat) : Int) else bits

/-- The first integer that rounds past the largest double: halfway from it to the next power of
two, from where rounding goes up. -/
def integerBound : Nat := twoTo 1024 - twoTo 970

/-- The double nearest to an integer, or none when the integer lies outside their range. -/
def ofInt? (n : Int) : Option Float :=
  if n.natAbs < integerBound then
    let size := Float.ofScientific n.natAbs false 0
    some (if n < 0 then -size else size)
  else none

def digitCount (n : Nat) : Nat :=
  if n = 0 then 0 else (Nat.toDigits 10 n).length

/-- The double nearest to `digits * 10 ^ power`. Powers that are certain to leave the range are
answered without being computed. -/
def ofDigits (negative : Bool) (digits : Nat) (power : Int) : Float :=
  let size : Float :=
    if digits = 0 then 0.0
    else if (digitCount digits : Int) + power > 310 then Float.ofBits 0x7FF0000000000000
    else if (digitCount digits : Int) + power < -330 then 0.0
    else Float.ofScientific digits (power < 0) power.natAbs
  if negative then -size else size

end DeckPress.Decimal
