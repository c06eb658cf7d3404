import DeckPress.Drawing.Deck
import DeckPress.Json.Serving
import DeckPress.Library.Store
import DeckPress.Service.Description
import DeckPress.Service.Order

/-!
What each endpoint answers. Rendering an order gives the same text however it is asked for, and
rendering a deck of the library is rendering an order for it, in which the convention is read off
the deck when the client chooses none.
-/

namespace DeckPress.Service

inductive Failure where
  | number (cause : NumberError)
  /-- The configured class is no class name. -/
  | policy (cause : Refusal)
  | sample (cause : Library.ReadError)
  /-- A value that would be repeated holds a number that is not finite. -/
  | notFinite
  /-- Text that would be sent holds half a pair. -/
  | half
  /-- A document can not be served. -/
  | unserved
  | route (cause : RouteError)
  deriving DecidableEq, Repr

def Failure.message : Failure → String
  | .number cause => cause.message
  | .policy cause => cause.message
  | .sample cause => cause.message
  | .notFinite => "Out of range float values are not JSON compliant"
  | .half | .unserved => ""
  | .route cause => cause.message

/-- What a call is told about its circumstances: a fresh name, the time of day, and how long the
answer took. -/
structure Occasion where
  freshId : String
  time : String
  elapsed : String

/-- The convention of a deck that is asked for without one: decks that have masters and no layouts
follow the one for masters. -/
def conventionOf (deck : Record Json) : Option LayoutLookup :=
  let set (name : String) : Bool := ((deck.get? name).map Json.truthy).getD false
  if set "masters" && !set "layouts" then some .masterList else none

def policyFor (settings : Settings) (choice : Choice) : Trace Failure RenderPolicy :=
  Trace.quiet ((settings.policy (choice.lookup.map LayoutLookup.name) choice.tokens).mapError
    .policy)

def renderAs (settings : Settings) (choice : Choice) (document : Json) : Trace Failure String := do
  let policy ← policyFor settings choice
  (Drawing.render policy document).mapError .number

def renderOrder (settings : Settings) (order : Order) : Trace Failure String := do
  let html ← renderAs settings order.choice ((order.deck.map Json.obj).getD .null)
  if html = "" then Trace.report .info "Deck rendered to an empty fragment"
  return html

def renderSample (settings : Settings) (choice : Choice) (deck : Record Json) :
    Trace Failure String :=
  renderAs settings { choice with lookup := choice.lookup <|> conventionOf deck } (.obj deck)

/-- Says what is wrong with a request, and repeats the values that are wrong. -/
def refuse (faults : List Fault) : Trace Failure Response :=
  if !(faults.all fun fault => fault.given.echoesFinite) then Trace.quiet (.error .notFinite)
  else if faults.any fun fault => fault.given.echoesHalf then Trace.quiet (.error .half)
  else return .refused faults

def unlessRejected {α : Type} (read : Except Rejection α) (next : α → Trace Failure Response) :
    Trace Failure Response :=
  match read with
  | .ok a => next a
  | .error (.faults faults) => refuse faults
  | .error .unreadable => return .detail 400 "There was an error parsing the body"

def withSample (store : Library.Store) (name : String)
    (next : Record Json → Trace Failure Response) : Trace Failure Response := do
  match ← (store.get? name).mapError .sample with
  | some deck => next deck
  | none => return .detail 404 (Library.FindError.unknown name).message

def sendHtml (html : String) : Trace Failure Response :=
  if Text.hasHalf html then Trace.quiet (.error .half) else return .ok (.html html)

def serve (document : Json) : Trace Failure Response :=
  match document.served? with
  | some document => return .ok (.json document)
  | none => Trace.quiet (.error .unserved)

def answer (settings : Settings) (store : Library.Store) (occasion : Occasion)
    (request : Request) (values : Record Json) : Endpoint → Trace Failure Response
  | .description => do
    let _ ← Trace.quiet ((routes settings).mapError fun cause => .route (.template cause))
    return .ok (.json (Description.document settings))
  | .guide => return .ok .page
  | .health =>
    return .ok (.json (.obj [("status", .str "healthy"), ("app", .str settings.appName),
      ("version", .str settings.appVersion)]))
  | .libraryHealth => do
    let count ← store.count
    return .ok (.json (.obj [("status", .str "healthy"), ("timestamp", .str occasion.time),
      ("version", .str settings.appVersion), ("samples", .int count)]))
  | .render =>
    unlessRejected (Order.ofRequest request) fun order => do
      let html ← renderOrder settings order
      serve (.obj [("html", .str html), ("empty", .bool (html = ""))])
  | .renderHtml =>
    unlessRejected (Order.ofRequest request) fun order => do
      sendHtml (← renderOrder settings order)
  | .sampleNames => do
    let names ← store.names
    return .ok (.json (.obj [("samples", .arr (names.map .str)), ("total", .int names.length)]))
  | .sample =>
    let parameters : Parameters := { template := settings.mount ++ samplePath, values, request }
    unlessRejected (parameters.inquiry false) fun inquiry =>
      withSample store inquiry.name fun deck => serve (.obj deck)
  | .sampleHtml =>
    let parameters : Parameters :=
      { template := settings.mount ++ samplePath ++ "/html", values, request }
    unlessRejected (parameters.inquiry true) fun inquiry =>
      withSample store inquiry.name fun deck => do
        sendHtml (← renderSample settings inquiry.choice deck)

end DeckPress.Service
