import DeckPress.Decimal.Shortest
import DeckPress.Json.Basic
import DeckPress.Text.Quoted

/-!
Writing documents as text, without gaps. Doubles are written with the fewest digits that read
back and always with a point or an exponent, so that they do not read back as whole numbers.
Halves of pairs and characters that are kept behind a mark are written as escapes.
-/

namespace DeckPress.Json

def stringChar (c : Char) : List Char :=
  if c == '"' then ['\\', '"']
  else if c == '\\' then ['\\', '\\']
  else if c.toNat < 0x20 then Text.unitEscape c.toNat
  else if Text.isReserved c then Text.pairEscape c
  else [c]

def stringGlyph : Text.Glyph → List Char
  | .char c => stringChar c
  | .half unit => Text.unitEscape unit

def stringText (s : String) : List Char :=
  '"' :: (Text.glyphs s.toList).flatMap stringGlyph ++ ['"']

/-- A double; the two that are no numbers and the infinities have names. -/
def floatText (x : Float) : List Char :=
  match Decimal.Binary64.ofFloat x with
  | .nan => "NaN".toList
  | .infinite true => "-Infinity".toList
  | .infinite false => "Infinity".toList
  | .finite .. => (Decimal.write x).toList

mutual

def compactChars : Json → List Char
  | .null => "null".toList
  | .bool b => (if b then "true" else "false").toList
  | .int n => (toString n).toList
  | .float x => floatText x
  | .str s => stringText s
  | .arr items => '[' :: itemsText items
  | .obj fields => '{' :: fieldsText fields

def itemsText : List Json → List Char
  | [] => [']']
  | [item] => compactChars item ++ [']']
  | item :: rest => compactChars item ++ ',' :: itemsText rest

def fieldsText : List (String × Json) → List Char
  | [] => ['}']
  | [(name, value)] => stringText name ++ ':' :: compactChars value ++ ['}']
  | (name, value) :: rest =>
    stringText name ++ ':' :: compactChars value ++ ',' :: fieldsText rest

end

def compact (j : Json) : String :=
  String.ofList j.compactChars

end DeckPress.Json
