import DeckPress.Json.Writer
import DeckPress.Service.Host
import DeckPress.Text.Percent

/-!
Requests and responses. The path of a request comes in percent coding; its query is a list of
named values, of which the last one of a name counts. The names of headers are compared without
regard to case, and the first one counts.
-/

namespace DeckPress.Service

structure Request where
  method : String
  /-- The name under which the server was reached. -/
  server : String
  /-- The path in percent coding. -/
  path : String
  query : String
  headers : List (String × String)
  /-- The address the request came from, when it is known. -/
  client : Option String
  body : String

namespace Request

def decodedPath (request : Request) : List Char :=
  Text.percentDecode request.path.toList

def lowerCase (s : String) : List Char :=
  s.toList.map Char.toLower

def header? (request : Request) (name : String) : Option String :=
  (request.headers.find? fun header => lowerCase header.1 = lowerCase name).map (·.2)

/-- The first header of a name, unless it is empty. -/
def filledHeader? (request : Request) (name : String) : Option String :=
  match request.header? name with
  | some "" => none
  | found => found

/-- A name or a value of a query: a plus stands for a space. -/
def queryText (coded : List Char) : String :=
  String.ofList (Text.percentDecode (coded.map fun c => if c = '+' then ' ' else c))

/-- The named values of a query. A name without an equals sign has the empty value. What is not in
percent coding is read octet by octet. -/
def queryFields (request : Request) : List (String × String) :=
  let coded := (Text.octets request.query.toList).map Char.ofNat
  ((Text.split (· == '&') coded).filter fun item => !item.isEmpty).map fun item =>
    match Text.splitFirst? (· == '=') item with
    | some (name, value) => (queryText name, queryText value)
    | none => (queryText item, "")

def queryValue? (request : Request) (name : String) : Option String :=
  Record.get? request.queryFields.reverse name

end Request

/-- A decoded path as part of an address: it starts with a slash, unless it is empty, and the
characters that would end it are in percent coding. -/
def addressPath (path : List Char) : List Char :=
  let escaped := path.flatMap fun c =>
    if c == '?' || c == '#' || c == '\\' then (Text.octetsOf c).flatMap Text.percentOctet else [c]
  if path.isEmpty || path.head? == some '/' then escaped else '/' :: escaped

inductive FaultKind where
  | missing
  | invalidJson
  | notObject
  | notTable
  | notChoice
  /-- A value of a kind that can stand for a switch, but does not. -/
  | unreadSwitch
  | notSwitch
  deriving DecidableEq, Repr

def FaultKind.name : FaultKind → String
  | .missing => "missing"
  | .invalidJson => "json_invalid"
  | .notObject => "model_attributes_type"
  | .notTable => "dict_type"
  | .notChoice => "literal_error"
  | .unreadSwitch => "bool_parsing"
  | .notSwitch => "bool_type"

/-- A fault of a request: where it is, and the value that is wrong. -/
structure Fault where
  kind : FaultKind
  place : List String
  given : Json

inductive Body where
  | empty
  | json (value : Json)
  /-- What is wrong with the request. -/
  | faults (faults : List Fault)
  | html (text : String)
  | plain (text : String)
  /-- A page about the service; its text is the outer layer's. -/
  | page

def Body.mediaType : Body → String
  | .empty => ""
  | .json _ | .faults _ => "application/json"
  | .html _ | .page => "text/html"
  | .plain _ => "text/plain"

structure Response where
  status : Nat
  body : Body
  /-- Where to ask instead. -/
  location : Option String := none
  /-- The name under which the request was logged. -/
  requestId : Option String := none

namespace Response

def ok (body : Body) : Response :=
  { status := 200, body }

/-- An answer that says in words why there is no other. -/
def detail (status : Nat) (text : String) : Response :=
  { status, body := .json (.obj [("detail", .str text)]) }

def notFound : Response := detail 404 "Not Found"

def wrongMethod : Response := detail 405 "Method Not Allowed"

def refused (faults : List Fault) : Response :=
  { status := 422, body := .faults faults }

def failed : Response :=
  { status := 500, body := .plain "Internal Server Error" }

def isAddressChar (c : Char) : Bool :=
  c.isAlphanum || "_.-~:/%#?=@[]!$&'()*+,;".toList.contains c

/-- Sends the client to another path, with the same query. -/
def moved (request : Request) (path : List Char) : Response :=
  let query := if request.query = "" then [] else '?' :: request.query.toList
  let host := Host.named request.server (request.header? "host")
  let address := "http://".toList ++ host.toList ++ addressPath path ++ query
  { status := 307
    body := .empty
    location := some (String.ofList (Text.percentEncode isAddressChar address)) }

end Response

end DeckPress.Service
