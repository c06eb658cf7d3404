import DeckPress.Text.Glyph

/-!
Percent coding, the spelling of text in addresses. A character stands for itself or for its
octets, each a percent sign with two hexadecimal digits. Decoding reads the octets as UTF-8; the
replacement character stands for what cannot begin or continue a character, once for each longest
run of octets that a character could start with.
-/

namespace DeckPress.Text

def octetsOf (c : Char) : List Nat :=
  (String.utf8EncodeChar c).map UInt8.toNat

/-- The octets of a glyph; those of a half are no text. -/
def Glyph.octets : Glyph → List Nat
  | .char c => octetsOf c
  | .half unit => [0xE0 + unit / 0x1000, 0x80 + unit / 0x40 % 0x40, 0x80 + unit % 0x40]

def octets (s : List Char) : List Nat :=
  (glyphs s).flatMap Glyph.octets

/-- The octets that glyphs in percent coding stand for. A percent sign without two digits stands
for itself. -/
def percentOctets : List Glyph → List Nat
  | .char '%' :: .char a :: .char b :: rest =>
    match hexDigit? a, hexDigit? b with
    | some high, some low => (high * 16 + low) :: percentOctets rest
    | _, _ => 0x25 :: percentOctets (.char a :: .char b :: rest)
  | glyph :: rest => glyph.octets ++ percentOctets rest
  | [] => []

/-- A character of which octets are still to come: how many, the bounds of the next one, and the
value of those that have been read. -/
structure Unfinished where
  owed : Nat
  low : Nat
  high : Nat
  value : Nat
  deriving DecidableEq, Repr

def announced? (octet : Nat) : Option Unfinished :=
  if 0xC2 ≤ octet ∧ octet ≤ 0xDF then some ⟨1, 0x80, 0xBF, octet - 0xC0⟩
  else if octet = 0xE0 then some ⟨2, 0xA0, 0xBF, 0⟩
  else if octet = 0xED then some ⟨2, 0x80, 0x9F, 0xD⟩
  else if 0xE1 ≤ octet ∧ octet ≤ 0xEF then some ⟨2, 0x80, 0xBF, octet - 0xE0⟩
  else if octet = 0xF0 then some ⟨3, 0x90, 0xBF, 0⟩
  else if 0xF1 ≤ octet ∧ octet ≤ 0xF3 then some ⟨3, 0x80, 0xBF, octet - 0xF0⟩
  else if octet = 0xF4 then some ⟨3, 0x80, 0x8F, 4⟩
  else none

def replacementChar : Char := Char.ofNat 0xFFFD

/-- The characters that an octet completes between characters, and what it leaves unfinished. -/
def startOctet (octet : Nat) : List Char × Option Unfinished :=
  if octet < 0x80 then ([Char.ofNat octet], none)
  else
    match announced? octet with
    | some character => ([], some character)
    | none => ([replacementChar], none)

def nextOctet (begun : Option Unfinished) (octet : Nat) : List Char × Option Unfinished :=
  match begun with
  | none => startOctet octet
  | some character =>
    if character.low ≤ octet ∧ octet ≤ character.high then
      let value := character.value * 64 + (octet - 0x80)
      if character.owed ≤ 1 then (keptChar (Char.ofNat value), none)
      else ([], some ⟨character.owed - 1, 0x80, 0xBF, value⟩)
    else
      let (done, begun) := startOctet octet
      (replacementChar :: done, begun)

def charsOfOctets (begun : Option Unfinished) : List Nat → List Char
  | [] => if begun.isSome then [replacementChar] else []
  | octet :: rest =>
    let (done, begun) := nextOctet begun octet
    done ++ charsOfOctets begun rest

def percentDecode (s : List Char) : List Char :=
  charsOfOctets none (percentOctets (glyphs s))

def percentOctet (octet : Nat) : List Char :=
  '%' :: (hexText 2 octet).map Char.toUpper

/-- A text in percent coding; the characters of a class, which are not reserved, stand for
themselves. -/
def percentEncode (keep : Char → Bool) (s : List Char) : List Char :=
  (glyphs s).flatMap fun glyph =>
    match glyph with
    | .char c => if keep c then [c] else (octetsOf c).flatMap percentOctet
    | .half _ => glyph.octets.flatMap percentOctet

end DeckPress.Text
