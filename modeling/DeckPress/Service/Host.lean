import DeckPress.Decimal.Numeral
import DeckPress.Text.Hexadecimal
import DeckPress.Text.Split

/-!
Hosts as requests name them: a registered name or an address in brackets, and a port if there is
a colon. A client that names no such host is answered as if it had named the server itself.
-/

namespace DeckPress.Service.Host

/-- The characters that addresses never reserve. -/
def isUnreserved (c : Char) : Bool :=
  c.isAlphanum || "-._~".toList.contains c

/-- The characters that parts of an address may use for their own ends. -/
def isSubDelimiter (c : Char) : Bool :=
  "!$&'()*+,;=".toList.contains c

def isNameChar (c : Char) : Bool :=
  isUnreserved c || isSubDelimiter c

/-- Whether the characters may make up a registered name. A percent sign may stand anywhere. -/
def isNameText (s : List Char) : Bool :=
  s.all fun c => isNameChar c || c == '%'

/-! ## Addresses in brackets -/

/-- One of the four numbers of an address of the fourth version: no nought before other digits. -/
def isByteText (s : List Char) : Bool :=
  !s.isEmpty && s.length ≤ 3 && s.all Char.isDigit && Decimal.Numeral.digitsValue s ≤ 255 &&
    (s.length == 1 || s.head? != some '0')

def isVersion4 (s : List Char) : Bool :=
  let parts := Text.split (· == '.') s
  parts.length == 4 && parts.all isByteText

/-- One of the eight groups of an address of the sixth version. -/
def isGroup (s : List Char) : Bool :=
  !s.isEmpty && s.length ≤ 4 && s.all Text.isHexDigit

/-- How many groups stand on one side of a gap, when all of them are groups. Where an address
ends, an address of the fourth version may stand for the last two. -/
def groupCount? (atEnd : Bool) (s : List Char) : Option Nat :=
  if s.isEmpty then some 0
  else
    let parts := Text.split (· == ':') s
    match parts.getLast? with
    | some last =>
      if atEnd && isVersion4 last && parts.dropLast.all isGroup then some (parts.length + 1)
      else if parts.all isGroup then some parts.length
      else none
    | none => none

/-- The text on both sides of the first gap, a pair of colons. -/
def splitGap? : List Char → Option (List Char × List Char)
  | ':' :: ':' :: rest => some ([], rest)
  | c :: rest => (splitGap? rest).map fun (front, back) => (c :: front, back)
  | [] => none

/-- Whether a text is an address of the sixth version: eight groups, or fewer with one gap for the
missing ones. -/
def isVersion6 (s : List Char) : Bool :=
  match splitGap? s with
  | none => groupCount? true s == some 8
  | some (front, back) =>
    match groupCount? false front, groupCount? true back with
    | some n, some m => n + m < 8
    | _, _ => false

/-- Whether a text is an address of a version to come: its number and more. -/
def isLaterVersion (s : List Char) : Bool :=
  match s with
  | 'v' :: rest =>
    match Text.splitFirst? (· == '.') rest with
    | some (version, address) =>
      !version.isEmpty && version.all Text.isHexDigit && !address.isEmpty &&
        address.all fun c => isNameChar c || c == ':'
    | none => false
  | _ => false

/-! ## Hosts -/

/-- Whether a text is a port behind its colon, or nothing. -/
def isPortPart : List Char → Bool
  | [] => true
  | ':' :: digits =>
    !digits.isEmpty && digits.all Char.isDigit && Decimal.Numeral.digitsValue digits ≤ 65535
  | _ => false

def isHost (s : List Char) : Bool :=
  match s with
  | '[' :: rest =>
    match Text.splitFirst? (· == ']') rest with
    | some (address, port) => (isVersion6 address || isLaterVersion address) && isPortPart port
    | none => false
  | _ =>
    let name := s.takeWhile (· != ':')
    !name.isEmpty && isNameText name && isPortPart (s.drop name.length)

/-- The host that a request names, or the server's own name when it names none. -/
def named (server : String) (host : Option String) : String :=
  match host with
  | some host => if isHost host.toList then host else server
  | none => server

end DeckPress.Service.Host
