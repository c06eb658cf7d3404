import DeckPress.Decimal.Shortest
import DeckPress.Json.Basic
import DeckPress.Text.Glyph

/-!
Documents that are sent. Text goes out as octets, so halves of pairs can not be sent; JSON has no
word for what is not finite. A document of the library is served with null for such numbers and
with replacement characters for halves in names, and is refused for anything else. A value that is
repeated to the client that sent it is refused in both cases.
-/

namespace DeckPress.Json

/-- How many lists and objects may stand around a value of a document that is served. -/
def servedDepth : Nat := 255

/-- The form in which a value is served, when there is room for it and its text can be sent. -/
def servedIn? : Nat → Json → Option Json
  | 0, _ => none
  | _ + 1, .float x => some (if Decimal.isFinite x then .float x else .null)
  | _ + 1, .str s => if Text.hasHalf s then none else some (.str s)
  | room + 1, .arr items => (items.mapM (servedIn? room)).map .arr
  | room + 1, .obj fields => do
    let fields ← fields.mapM fun (name, value) => do
      return (Text.withoutHalves name, ← servedIn? room value)
    return .obj (Record.ofEntries fields)
  | _ + 1, j => some j

def served? (document : Json) : Option Json :=
  servedIn? servedDepth document

/-- Whether a field is left out where a value is repeated. -/
def isWithheld (name : String) : Bool :=
  "_sa".toList.isPrefixOf name.toList

mutual

def echoesFinite : Json → Bool
  | .float x => Decimal.isFinite x
  | .arr items => itemsEchoFinite items
  | .obj fields => fieldsEchoFinite fields
  | _ => true

def itemsEchoFinite : List Json → Bool
  | [] => true
  | item :: rest => echoesFinite item && itemsEchoFinite rest

def fieldsEchoFinite : List (String × Json) → Bool
  | [] => true
  | (name, value) :: rest =>
    (isWithheld name || echoesFinite value) && fieldsEchoFinite rest

end

mutual

/-- Whether half a pair is in the text that is repeated with a value. -/
def echoesHalf : Json → Bool
  | .str s => Text.hasHalf s
  | .arr items => itemsEchoHalf items
  | .obj fields => fieldsEchoHalf fields
  | _ => false

def itemsEchoHalf : List Json → Bool
  | [] => false
  | item :: rest => echoesHalf item || itemsEchoHalf rest

def fieldsEchoHalf : List (String × Json) → Bool
  | [] => false
  | (name, value) :: rest =>
    (!isWithheld name && (Text.hasHalf name || echoesHalf value)) || fieldsEchoHalf rest

end

end DeckPress.Json
