import DeckPress.Decimal.Numeral
import DeckPress.Json.Basic
import DeckPress.Text.Glyph

/-!
Reading documents from text. The grammar is that of JSON, with the names NaN and Infinity also
taken as numbers; a number without point and exponent is a whole number. A repeated field keeps
its first place and its last value. Text is read from left to right, and the first thing in it
that can not be read is what is reported.
-/

namespace DeckPress.Json

inductive DocumentError where
  /-- The text does not follow the grammar. -/
  | malformed
  /-- A whole number has more digits than are read. -/
  | longNumber (digits : Nat)
  /-- Lists and objects stand inside each other deeper than they are followed. -/
  | tooDeep
  deriving DecidableEq, Repr

def DocumentError.message : DocumentError → String
  | .malformed | .tooDeep => ""
  | .longNumber digits => Decimal.Numeral.lengthMessage digits

def depthLimit : Nat := 970

def isGap (c : Char) : Bool :=
  c == ' ' || c == '\t' || c == '\n' || c == '\r'

def skipGap (text : List Char) : List Char :=
  text.dropWhile isGap

def hex4? (a b c d : Char) : Option Nat := do
  let a ← Text.hexDigit? a
  let b ← Text.hexDigit? b
  let c ← Text.hexDigit? c
  let d ← Text.hexDigit? d
  return ((a * 16 + b) * 16 + c) * 16 + d

def shortEscape? : Char → Option Char
  | '"' => some '"'
  | '\\' => some '\\'
  | '/' => some '/'
  | 'b' => some (Char.ofNat 8)
  | 'f' => some (Char.ofNat 12)
  | 'n' => some '\n'
  | 'r' => some '\r'
  | 't' => some '\t'
  | _ => none

def withText (front : List Char) (read : Except DocumentError (List Char × List Char)) :
    Except DocumentError (List Char × List Char) :=
  read.map fun (s, rest) => (front ++ s, rest)

/-- Reads a string after its opening quote, up to and past the closing one. -/
def readString : List Char → Except DocumentError (List Char × List Char)
  | [] => .error .malformed
  | '"' :: rest => .ok ([], rest)
  | '\\' :: 'u' :: a :: b :: c :: d :: '\\' :: 'u' :: e :: f :: g :: h :: rest =>
    match hex4? a b c d, hex4? e f g h with
    | some first, some second =>
      if Text.isHighHalf first && Text.isLowHalf second then
        withText (Text.Glyph.ofPair first second).kept (readString rest)
      else
        withText (Text.Glyph.ofUnit first).kept
          (readString ('\\' :: 'u' :: e :: f :: g :: h :: rest))
    | _, _ => .error .malformed
  | '\\' :: 'u' :: a :: b :: c :: d :: rest =>
    match hex4? a b c d with
    | some unit => withText (Text.Glyph.ofUnit unit).kept (readString rest)
    | none => .error .malformed
  | '\\' :: c :: rest =>
    match shortEscape? c with
    | some e => withText [e] (readString rest)
    | none => .error .malformed
  | c :: rest =>
    if c.toNat < 0x20 || c == '\\' then .error .malformed else withText [c] (readString rest)

/-- The whole part of a number: nought alone, or digits that do not start with it. -/
def readWhole : List Char → Option (List Char × List Char)
  | '0' :: rest => some (['0'], rest)
  | text =>
    match text.takeWhile Char.isDigit with
    | [] => none
    | digits => some (digits, text.dropWhile Char.isDigit)

def readFraction : List Char → List Char × List Char
  | '.' :: rest =>
    match rest.takeWhile Char.isDigit with
    | [] => ([], '.' :: rest)
    | digits => (digits, rest.dropWhile Char.isDigit)
  | text => ([], text)

def signedValue (negative : Bool) (digits : List Char) : Int :=
  Decimal.Binary64.signed negative (Decimal.Numeral.digitsValue digits)

/-- The exponent, when the letter is followed by digits. -/
def readExponent (text : List Char) : Option Int × List Char :=
  match text with
  | c :: rest =>
    if c == 'e' || c == 'E' then
      let (negative, digits) : Bool × List Char := match rest with
        | '-' :: rest => (true, rest)
        | '+' :: rest => (false, rest)
        | rest => (false, rest)
      match digits.takeWhile Char.isDigit with
      | [] => (none, text)
      | size =>
        (some (signedValue negative size), digits.dropWhile Char.isDigit)
    else (none, text)
  | [] => (none, [])

def readUnsigned (negative : Bool) (text : List Char) : Except DocumentError (Json × List Char) :=
  match readWhole text with
  | none => .error .malformed
  | some (whole, rest) =>
    let (fraction, rest) := readFraction rest
    match fraction, readExponent rest with
    | [], (none, rest) =>
      if Decimal.Numeral.digitLimit < whole.length then .error (.longNumber whole.length)
      else .ok (.int (signedValue negative whole), rest)
    | fraction, (exponent, rest) =>
      let power := exponent.getD 0 - fraction.length
      let digits := Decimal.Numeral.digitsValue (whole ++ fraction)
      .ok (.float (Decimal.ofDigits negative digits power), rest)

def names : List (String × Json) :=
  [("null", .null), ("true", .bool true), ("false", .bool false),
    ("NaN", .float (Float.ofBits 0x7FF8000000000000)),
    ("Infinity", .float (Float.ofBits 0x7FF0000000000000)),
    ("-Infinity", .float (Float.ofBits 0xFFF0000000000000))]

def readName (text : List Char) : Option (Json × List Char) :=
  names.findSome? fun (name, value) =>
    if name.toList.isPrefixOf text then some (value, text.drop name.length) else none

def readAtom (text : List Char) : Except DocumentError (Json × List Char) :=
  match readName text with
  | some found => .ok found
  | none =>
    match text with
    | '"' :: rest => do
      let (s, rest) ← readString rest
      return (.str (String.ofList s), rest)
    | '-' :: rest => readUnsigned true rest
    | _ => readUnsigned false text

mutual

/-- Reads a value inside which lists and objects may be nested so deep. Of two calls, one inside
the other, at least one reads a character, so a bound above twice the length of the text is never
reached. -/
def readValue : Nat → Nat → List Char → Except DocumentError (Json × List Char)
  | 0, _, _ => .error .malformed
  | bound + 1, room, text =>
    match text with
    | '[' :: rest =>
      if room = 0 then .error .tooDeep
      else
        match skipGap rest with
        | ']' :: rest => .ok (.arr [], rest)
        | rest => do
          let (items, rest) ← readItems bound (room - 1) rest
          return (.arr items, rest)
    | '{' :: rest =>
      if room = 0 then .error .tooDeep
      else
        match skipGap rest with
        | '}' :: rest => .ok (.obj [], rest)
        | rest => do
          let (fields, rest) ← readFields bound (room - 1) [] rest
          return (.obj fields, rest)
    | text => readAtom text

def readItems : Nat → Nat → List Char → Except DocumentError (List Json × List Char)
  | 0, _, _ => .error .malformed
  | bound + 1, room, text => do
    let (item, rest) ← readValue bound room text
    match skipGap rest with
    | ']' :: rest => return ([item], rest)
    | ',' :: rest =>
      let (items, rest) ← readItems bound room (skipGap rest)
      return (item :: items, rest)
    | _ => .error .malformed

/-- The fields of an object after those already read, up to and past its closing brace. -/
def readFields :
    Nat → Nat → Record Json → List Char → Except DocumentError (Record Json × List Char)
  | 0, _, _, _ => .error .malformed
  | bound + 1, room, read, text =>
    match text with
    | '"' :: rest => do
      let (name, rest) ← readString rest
      match skipGap rest with
      | ':' :: rest =>
        let (value, rest) ← readValue bound room (skipGap rest)
        let read := Record.put read (String.ofList name) value
        match skipGap rest with
        | '}' :: rest => return (read, rest)
        | ',' :: rest => readFields bound room read (skipGap rest)
        | _ => .error .malformed
      | _ => .error .malformed
    | _ => .error .malformed

end

def readChars (chars : List Char) : Except DocumentError Json := do
  let (value, rest) ← readValue (2 * chars.length + 2) depthLimit (skipGap chars)
  if (skipGap rest).isEmpty then return value else .error .malformed

def read (text : String) : Except DocumentError Json :=
  readChars text.toList

def read? (text : String) : Option Json :=
  (read text).toOption

end DeckPress.Json
