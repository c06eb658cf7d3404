import DeckPress.Decimal.Shortest
import DeckPress.Json.Basic
import DeckPress.Text.Quoted

/-!
The text of a value where a document is written into markup. There are two forms. The plain form
shows lists and objects with their brackets and with quoted strings. The style form, used for
declarations, coordinates and interpolation, drops the fraction of whole doubles, joins lists with
commas, and is the plain form otherwise. Every value has both forms, however deep it is nested and
however long its whole numbers are; an interpreter that writes them by recursion may give up earlier.
-/

namespace DeckPress.Json

def boolWord (b : Bool) : String :=
  if b then "True" else "False"

mutual

def innerText : Json → List Char
  | .null => "None".toList
  | .bool b => (boolWord b).toList
  | .int n => (toString n).toList
  | .float x => (Decimal.write x).toList
  | .str s => Text.quotedChars s.toList
  | .arr items => '[' :: innerItems items
  | .obj fields => '\x7b' :: innerFields fields

def innerItems : List Json → List Char
  | [] => [']']
  | [item] => innerText item ++ [']']
  | item :: rest => innerText item ++ ", ".toList ++ innerItems rest

def innerFields : List (String × Json) → List Char
  | [] => ['\x7d']
  | [(name, value)] => Text.quotedChars name.toList ++ ": ".toList ++ innerText value ++ ['\x7d']
  | (name, value) :: rest =>
    Text.quotedChars name.toList ++ ": ".toList ++ innerText value ++ ", ".toList ++
      innerFields rest

end

def plainText : Json → String
  | .str s => s
  | j => String.ofList j.innerText

/-- A double in style form: whole ones without point and exponent. -/
def floatStyleText (x : Float) : String :=
  match (Decimal.Binary64.ofFloat x).whole? with
  | some n => toString n
  | none => Decimal.write x

mutual

def styleText : Json → String
  | .bool b => if b then "true" else "false"
  | .float x => floatStyleText x
  | .arr items => styleItems items
  | j => j.plainText

def styleItems : List Json → String
  | [] => ""
  | [item] => styleText item
  | item :: rest => styleText item ++ "," ++ styleItems rest

end

@[simp] theorem plainText_str (s : String) : plainText (.str s) = s := rfl

@[simp] theorem styleText_str (s : String) : styleText (.str s) = s := by
  simp [styleText]

end DeckPress.Json
