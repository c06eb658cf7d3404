import DeckPress.Service.Settings
import DeckPress.Service.Template

/-!
Routes: which endpoint answers a path and a method. The first route whose path and method fit is
taken. Where only the path fits the method is wrong; where the path fits once its closing slashes
are gone the client is sent there; everything else is not found. Routes are made in groups, a group
when the search for a route comes to it, so a request that is answered before that is not troubled
by templates that stand for no paths.
-/

namespace DeckPress.Service

inductive Endpoint where
  /-- The description of the interface for programs. -/
  | description
  /-- A page that documents the interface. -/
  | guide
  | libraryHealth
  | render
  | renderHtml
  | sampleNames
  | sample
  | sampleHtml
  | health
  deriving DecidableEq, Repr

structure Rule where
  methods : List String
  template : String
  endpoint : Endpoint

structure Route where
  methods : List String
  template : Template
  endpoint : Endpoint

/-- The name that stands for the order in a body; no slot may have it. -/
def orderName : String := "request"

/-- The paths of the decks of the library, below the address of the service. -/
def samplePath : String := "/samples/\x7bname\x7d"

/-- The groups of rules that routes are made from, in the order in which they are tried. -/
def rules (settings : Settings) : List (List Rule) :=
  let page (path : String) (endpoint : Endpoint) : Rule := ⟨["GET", "HEAD"], path, endpoint⟩
  let mounted (method path : String) (endpoint : Endpoint) : Rule :=
    ⟨[method], settings.mount ++ path, endpoint⟩
  let guides :=
    if settings.debug then
      [page "/docs" .guide, page "/docs/oauth2-redirect" .guide, page "/redoc" .guide]
    else []
  [page "/openapi.json" .description :: guides,
    [mounted "GET" "/health" .libraryHealth],
    [mounted "POST" "/render" .render, mounted "POST" "/render/html" .renderHtml],
    [mounted "GET" "/samples" .sampleNames, mounted "GET" samplePath .sample,
      mounted "GET" (samplePath ++ "/html") .sampleHtml],
    [⟨["GET"], "/health", .health⟩]]

/-- Whether an endpoint reads an order from the body. -/
def Endpoint.takesOrder (endpoint : Endpoint) : Bool :=
  endpoint = .render || endpoint = .renderHtml

def Route.ofRule (rule : Rule) : Except TemplateError Route := do
  let template ← Template.ofText rule.template
  if rule.endpoint.takesOrder && (Template.given rule.template).contains orderName then
    .error .orderSlot
  else return { methods := rule.methods, template, endpoint := rule.endpoint }

def Route.ofGroup (group : List Rule) : Except TemplateError (List Route) :=
  group.mapM Route.ofRule

def routes (settings : Settings) : Except TemplateError (List Route) := do
  return (← (rules settings).mapM Route.ofGroup).flatten

/-- Why the search for a route came to no end. -/
inductive RouteError where
  | template (cause : TemplateError)
  /-- A slot is filled with a whole number that has more digits than are read. -/
  | longNumber (digits : Nat)
  deriving DecidableEq, Repr

def RouteError.message : RouteError → String
  | .template cause => cause.message
  | .longNumber digits => Decimal.Numeral.lengthMessage digits

inductive Passage where
  /-- To an endpoint, with the values that the path gives to names. -/
  | taken (endpoint : Endpoint) (values : Record Json)
  | wrongMethod
  | moved (path : List Char)
  | unknown

inductive Fit where
  | none
  /-- The path of a route, and not its methods. -/
  | path
  | full (endpoint : Endpoint) (values : Record Json)

namespace Route

/-- How a request fits a route. Where no method is given, any fits. -/
def fit (method : Option String) (path : List Char) (route : Route) : Except RouteError Fit :=
  match route.template.fill? path with
  | none => return .none
  | some fillings => do
    let values ← fillings.mapM fun filling => do
      return (filling.name, ← filling.value.mapError .longNumber)
    return if method.all route.methods.contains then .full route.endpoint values else .path

/-- The best fit among routes, given the one found before them; the first full one ends the
search. -/
def search (method : Option String) (path : List Char) (found : Fit) :
    List Route → Except RouteError Fit
  | [] => return found
  | route :: rest => do
    match ← route.fit method path with
    | .none => search method path found rest
    | .path => search method path .path rest
    | .full endpoint values => return .full endpoint values

/-- The best fit among groups of routes, which are made one after the other. -/
def searchGroups (method : Option String) (path : List Char) (found : Fit) :
    List (List Rule) → Except RouteError Fit
  | [] => return found
  | group :: rest => do
    match ← search method path found (← (ofGroup group).mapError .template) with
    | .full endpoint values => return .full endpoint values
    | found => searchGroups method path found rest

/-- The path without its closing slashes, when it has any and is more than one slash. -/
def withoutSlashes? (path : List Char) : Option (List Char) :=
  if path != ['/'] && path.getLast? == some '/' then
    some (path.reverse.dropWhile (· == '/')).reverse
  else none

def pass (groups : List (List Rule)) (method : String) (path : List Char) :
    Except RouteError Passage := do
  match ← searchGroups (some method) path .none groups with
  | .full endpoint values => return .taken endpoint values
  | .path => return .wrongMethod
  | .none =>
    match withoutSlashes? path with
    | none => return .unknown
    | some shorter =>
      match ← searchGroups none shorter .none groups with
      | .none => return .unknown
      | _ => return .moved shorter

end Route

end DeckPress.Service
