import DeckPress.Decimal.Binary64
import DeckPress.Text.Blank
import DeckPress.Text.DecimalDigit

/-!
Numbers written as text. The grammar of a double is a sign, digits with a point among or around
them, and an exponent, or a name for infinity or for no number. Two spellings are read: the plain
one, in ASCII, and the free one, which takes decimal digits of every script and single underscores
between digits. A whole number is read in the free spelling.
-/

namespace DeckPress.Decimal.Numeral

def digitsValue (digits : List Char) : Nat :=
  digits.foldl (fun n c => n * 10 + (c.toNat - '0'.toNat)) 0

/-- Takes the sign off; true for a minus. -/
def takeSign : List Char → Bool × List Char
  | '-' :: rest => (true, rest)
  | '+' :: rest => (false, rest)
  | text => (false, text)

def exponent? : List Char → Option Int
  | [] => some 0
  | c :: rest =>
    if c == 'e' || c == 'E' then
      let (negative, digits) := takeSign rest
      if !digits.isEmpty && digits.all Char.isDigit then
        some (Binary64.signed negative (digitsValue digits))
      else none
    else none

def takeFraction : List Char → List Char × List Char
  | '.' :: rest => (rest.takeWhile Char.isDigit, rest.dropWhile Char.isDigit)
  | text => ([], text)

/-- A number in digits, without its sign. At least one digit stands before or after the point. -/
def unsigned? (negative : Bool) (text : List Char) : Option Float :=
  let whole := text.takeWhile Char.isDigit
  let (fraction, rest) := takeFraction (text.dropWhile Char.isDigit)
  if (whole ++ fraction).isEmpty then none
  else
    (exponent? rest).map fun power =>
      ofDigits negative (digitsValue (whole ++ fraction)) (power - fraction.length)

def named? (negative : Bool) (text : List Char) : Option Float :=
  let name := String.ofList (text.map Char.toLower)
  if name = "inf" ∨ name = "infinity" then
    some (Float.ofBits (if negative then 0xFFF0000000000000 else 0x7FF0000000000000))
  else if name = "nan" then some (Float.ofBits 0x7FF8000000000000)
  else none

def bareDouble? (text : List Char) : Option Float :=
  let (negative, rest) := takeSign text
  match named? negative rest with
  | some x => some x
  | none => unsigned? negative rest

def isAsciiSpace (c : Char) : Bool :=
  c == ' ' || (9 ≤ c.toNat && c.toNat ≤ 13)

/-- The ASCII character with the same meaning in a number: a space for white space, the digit for
a digit of another script. Other characters have none. -/
def asciiForm? (c : Char) : Option Char :=
  if c.toNat < 127 then some c
  else if Text.isWhiteSpace c then some ' '
  else (Text.decimalDigit? c).map fun d => Char.ofNat ('0'.toNat + d)

/-- Removes underscores, each of which has to stand between two digits. -/
def joinDigits (afterDigit : Bool) : List Char → Option (List Char)
  | [] => some []
  | '_' :: c :: rest =>
    if afterDigit && c.isDigit then (joinDigits true rest).map (c :: ·) else none
  | c :: rest => if c == '_' then none else (joinDigits c.isDigit rest).map (c :: ·)

def normal? (text : String) : Option (List Char) := do
  let ascii ← text.toList.mapM asciiForm?
  joinDigits false (Text.trimBoth isAsciiSpace ascii)

def double? (text : String) : Option Float := do
  bareDouble? (← normal? text)

def digitLimit : Nat := 4300

def lengthMessage (digits : Nat) : String :=
  "Exceeds the limit (" ++ toString digitLimit ++
    " digits) for integer string conversion: value has " ++ toString digits ++
    " digits; use sys.set_int_max_str_digits() to increase the limit"

inductive WholeError where
  | notWhole
  | tooLong (digits : Nat)
  deriving DecidableEq, Repr

/-- A whole number in the free spelling. Digits are counted before what follows them is looked
at. -/
def whole (text : String) : Except WholeError Int :=
  let ascii := text.toList.map fun c => (asciiForm? c).getD '?'
  let (negative, rest) := takeSign (ascii.dropWhile isAsciiSpace)
  let run := rest.takeWhile fun c => c.isDigit || c == '_'
  match joinDigits false run with
  | none | some [] => .error .notWhole
  | some digits =>
    if digitLimit < digits.length then .error (.tooLong digits.length)
    else if (rest.drop run.length).all isAsciiSpace then
      .ok (Binary64.signed negative (digitsValue digits))
    else .error .notWhole

def looseUnderscores (text : List Char) : Bool :=
  text.head? == some '_' || text.getLast? == some '_' ||
    (text.zip (text.drop 1)).any fun pair => pair.1 == '_' && pair.2 == '_'

/-- A double in the plain spelling: white space may surround it, or else underscores may stand
inside it. -/
def plainDouble? (text : String) : Option Float :=
  match bareDouble? (Text.trimBoth Text.isWhiteSpace text.toList) with
  | some x => some x
  | none =>
    if looseUnderscores text.toList then none
    else bareDouble? (text.toList.filter (· != '_'))

end DeckPress.Decimal.Numeral
