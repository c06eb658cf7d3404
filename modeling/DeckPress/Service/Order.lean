import DeckPress.Entity.Policy
import DeckPress.Json.Reader
import DeckPress.Service.Exchange
import DeckPress.Service.Route
import DeckPress.Text.Encoding

/-!
Orders: what a client asks to have rendered, and how. An order comes in the body of a request; a
deck of the library is asked for with parameters instead. Each part may be absent or null, but for
the deck's name; the parts are checked independently, and all that is wrong is reported at once.
-/

namespace DeckPress.Service

structure Choice where
  lookup : Option LayoutLookup := none
  tokens : Option Bool := none
  deriving DecidableEq, Repr

structure Order where
  deck : Option (Record Json) := none
  choice : Choice := {}

structure Inquiry where
  name : String
  choice : Choice := {}

inductive Rejection where
  /-- Values are at fault. -/
  | faults (faults : List Fault)
  /-- The body can not be read at all. -/
  | unreadable

/-- Reads one part of an order. -/
abbrev PartReader (α : Type) := Json → Except FaultKind α

namespace PartReader

def deck : PartReader (Record Json)
  | .obj fields => .ok fields
  | _ => .error .notTable

def lookup : PartReader LayoutLookup := fun value =>
  match Reader.word LayoutLookup.meanings value with
  | .ok lookup => .ok lookup
  | .error _ => .error .notChoice

/-- What is wrong with a value that is no switch: text and whole numbers of sixty-four bits might
have been one. Of doubles the least of these numbers is not. -/
def switchFault : Json → FaultKind
  | .str _ => .unreadSwitch
  | .int n =>
    if -(Decimal.twoTo 63 : Int) ≤ n && n < Decimal.twoTo 63 then .unreadSwitch else .notSwitch
  | .float x =>
    match (Decimal.Binary64.ofFloat x).whole? with
    | some n => if n.natAbs < Decimal.twoTo 63 then .unreadSwitch else .notSwitch
    | none => .notSwitch
  | _ => .notSwitch

def switch : PartReader Bool := fun value =>
  match Reader.flag value with
  | .ok b => .ok b
  | .error _ => .error (switchFault value)

end PartReader

/-- A part that may be absent: what was read, and its fault if it has one. -/
def readPart {α : Type} (reader : PartReader α) (place : List String) (value : Option Json) :
    Option α × List Fault :=
  match value with
  | none | some .null => (none, [])
  | some value =>
    match reader value with
    | .ok part => (some part, [])
    | .error kind => (none, [⟨kind, place, value⟩])

def unlessFaulty {α : Type} (value : α) : List Fault → Except (List Fault) α
  | [] => .ok value
  | faults => .error faults

namespace Order

def ofFields (fields : Record Json) : Except (List Fault) Order :=
  let (deck, deckFaults) := readPart PartReader.deck ["body", "deck"] (fields.get? "deck")
  let (lookup, lookupFaults) :=
    readPart PartReader.lookup ["body", "layout_lookup"] (fields.get? "layout_lookup")
  let (tokens, tokenFaults) :=
    readPart PartReader.switch ["body", "token_resolution"] (fields.get? "token_resolution")
  unlessFaulty { deck, choice := { lookup, tokens } } (deckFaults ++ lookupFaults ++ tokenFaults)

/-- Whether a media type is that of JSON or of a format based on it. -/
def isJsonType (mediaType : String) : Bool :=
  let name := (mediaType.toList.takeWhile (· != ';')).map Char.toLower
  match Text.splitFirst? (· == '/') (Text.trimBoth Text.isBlank name) with
  | some (family, member) =>
    family = "application".toList && !member.contains '/' &&
      (member = "json".toList || "+json".toList.isSuffixOf member)
  | none => false

/-- The text of a body, in whatever encoding it comes. A mark of byte order may come before it. -/
def bodyText? (body : String) : Option (List Char) :=
  if body.toList.head? = some (Char.ofNat 0xFEFF) then some (body.toList.drop 1)
  else
    let octets := Text.octets body.toList
    (Text.Encoding.detect octets).decode? octets

def ofDocument : Except Json.DocumentError Json → Except Rejection Order
  | .ok (.obj fields) => (ofFields fields).mapError .faults
  | .ok value => .error (.faults [⟨.notObject, ["body"], value⟩])
  | .error .malformed => .error (.faults [⟨.invalidJson, ["body"], .obj []⟩])
  | .error _ => .error .unreadable

def ofRequest (request : Request) : Except Rejection Order :=
  if request.body = "" then .error (.faults [⟨.missing, ["body"], .null⟩])
  else if !isJsonType ((request.header? "content-type").getD "") then
    .error (.faults [⟨.notObject, ["body"], .str request.body⟩])
  else
    match bodyText? request.body with
    | some text => ofDocument (Json.readChars text)
    | none => .error .unreadable

end Order

/-! ## Parameters -/

inductive ParameterPlace where
  | path
  | query
  deriving DecidableEq, Repr

def ParameterPlace.name : ParameterPlace → String
  | .path => "path"
  | .query => "query"

/-- The place of a parameter: the path, when its template is known to give it a value. -/
def ParameterPlace.of (template parameter : String) : ParameterPlace :=
  if (Template.given template).contains parameter then .path else .query

structure Parameters where
  /-- The template of the route. -/
  template : String
  /-- The values that the path gives. -/
  values : Record Json
  request : Request

namespace Parameters

def place (p : Parameters) (parameter : String) : ParameterPlace :=
  .of p.template parameter

def value? (p : Parameters) (parameter : String) : Option Json :=
  match p.place parameter with
  | .path => Record.get? p.values parameter
  | .query => (p.request.queryValue? parameter).map .str

def faultPlace (p : Parameters) (parameter : String) : List String :=
  [(p.place parameter).name, parameter]

def read {α : Type} (p : Parameters) (reader : PartReader α) (parameter : String) :
    Option α × List Fault :=
  readPart reader (p.faultPlace parameter) (p.value? parameter)

def readName (p : Parameters) : Option String × List Fault :=
  match p.value? "name" with
  | some value => (some value.plainText, [])
  | none => (none, [⟨.missing, p.faultPlace "name", .null⟩])

/-- Faults in the order in which they are reported: those of the path come first. -/
def inOrder (faults : List Fault) : List Fault :=
  let inPath (fault : Fault) : Bool := fault.place.head? = some ParameterPlace.path.name
  faults.filter inPath ++ faults.filter fun fault => !inPath fault

/-- Reads what is asked for of the library; a deck as it is can not be asked for with choices. -/
def inquiry (p : Parameters) (rendered : Bool) : Except Rejection Inquiry :=
  let (name, nameFaults) := p.readName
  let (lookup, lookupFaults) :=
    if rendered then p.read PartReader.lookup "layout_lookup" else (none, [])
  let (tokens, tokenFaults) :=
    if rendered then p.read PartReader.switch "token_resolution" else (none, [])
  (unlessFaulty { name := name.getD "", choice := { lookup, tokens } }
    (inOrder (nameFaults ++ lookupFaults ++ tokenFaults))).mapError .faults

end Parameters

end DeckPress.Service
