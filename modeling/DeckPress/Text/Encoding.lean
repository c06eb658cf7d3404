import DeckPress.Text.Percent

/-!
Encodings of documents. A document comes as octets, in units of one, two or four of them, the
first octet of a unit being its most or its least significant. Since a document starts with ASCII
characters, the octets that are nought tell which. Units of two and four that are half a pair are
kept; the octets are no text when some are left over, or when a unit is beyond all characters.
-/

namespace DeckPress.Text

inductive ByteOrder where
  | big
  | little
  deriving DecidableEq, Repr

inductive Encoding where
  | utf8
  | utf16 (order : ByteOrder)
  | utf32 (order : ByteOrder)
  deriving DecidableEq, Repr

def Encoding.detect : List Nat → Encoding
  | 0 :: 0 :: _ :: _ :: _ => .utf32 .big
  | 0 :: _ :: _ :: _ :: _ => .utf16 .big
  | _ :: 0 :: 0 :: 0 :: _ => .utf32 .little
  | _ :: 0 :: _ :: _ :: _ => .utf16 .little
  | [0, _] => .utf16 .big
  | [_, 0] => .utf16 .little
  | _ => .utf8

/-- The number whose digits to the base of octets these are. -/
def ByteOrder.unit (order : ByteOrder) (octets : List Nat) : Nat :=
  let digits := match order with
    | .big => octets
    | .little => octets.reverse
  digits.foldl (fun n octet => n * 256 + octet) 0

def units16? (order : ByteOrder) : List Nat → Option (List Nat)
  | [] => some []
  | a :: b :: rest => (units16? order rest).map (order.unit [a, b] :: ·)
  | [_] => none

def units32? (order : ByteOrder) : List Nat → Option (List Nat)
  | [] => some []
  | a :: b :: c :: d :: rest => (units32? order rest).map (order.unit [a, b, c, d] :: ·)
  | _ => none

def glyphsOfUnits : List Nat → List Glyph
  | [] => []
  | [unit] => [.ofUnit unit]
  | high :: low :: rest =>
    if isHighHalf high && isLowHalf low then .ofPair high low :: glyphsOfUnits rest
    else .ofUnit high :: glyphsOfUnits (low :: rest)

def Encoding.decode? (octets : List Nat) : Encoding → Option (List Char)
  | .utf8 => some (charsOfOctets none octets)
  | .utf16 order => (units16? order octets).map fun units => (glyphsOfUnits units).flatMap Glyph.kept
  | .utf32 order => do
    let units ← units32? order octets
    if units.all fun unit => unit ≤ 0x10FFFF then
      some (units.flatMap fun unit => (Glyph.ofUnit unit).kept)
    else none

end DeckPress.Text
