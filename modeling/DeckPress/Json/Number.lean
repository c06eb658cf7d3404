import DeckPress.Decimal.Numeral
import DeckPress.Json.Basic

/-!
Values read as numbers. Whole numbers, doubles and text that spells a number have a value; a
default stands for everything else and for what is not finite. The one way to fail is a whole
number beyond the range of doubles.
-/

namespace DeckPress

inductive NumberError where
  | tooLarge
  deriving DecidableEq, Repr

def NumberError.message : NumberError → String
  | .tooLarge => "int too large to convert to float"

namespace Json

/-- Whether a value is a number; booleans are none. -/
def isNumber : Json → Bool
  | .int _ => true
  | .float _ => true
  | _ => false

def finiteOr (fallback x : Float) : Float :=
  if Decimal.isFinite x then x else fallback

def toFloat (fallback : Float) : Json → Except NumberError Float
  | .int n =>
    match Decimal.ofInt? n with
    | some x => .ok x
    | none => .error .tooLarge
  | .float x => .ok (finiteOr fallback x)
  | .str s =>
    match Decimal.Numeral.double? s with
    | some x => .ok (finiteOr fallback x)
    | none => .ok fallback
  | _ => .ok fallback

end Json

end DeckPress
