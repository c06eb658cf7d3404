import DeckPress.Library.Bundled
import DeckPress.Service.Answer

/-!
The service as a whole: settings and a library, and what comes of a request. A browser's question
whether it may call is answered first; other requests are passed to their endpoints, and all but
those for the service's health are logged under a name that the response repeats.
-/

namespace DeckPress.Service

inductive StartError where
  | settings (cause : SettingsError)
  /-- The service has no name. -/
  | unnamed
  /-- Addresses can not start with the configured text. -/
  | mount
  deriving DecidableEq, Repr

def StartError.message : StartError → String
  | .settings cause => cause.message
  | .unnamed | .mount => ""

/-- Addresses start with nothing, or with a slash and no slash at the end. -/
def isMount (mount : String) : Bool :=
  mount = "" || (mount.toList.head? == some '/' && mount.toList.getLast? != some '/')

structure App where
  settings : Settings
  store : Library.Store
  named : settings.appName ≠ ""
  mountable : isMount settings.mount = true

/-- What came of a request: messages, the response, and the failure that it stands for. -/
structure Exchange where
  messages : List Message
  response : Response
  failure : Option Failure

namespace App

/-- The library that settings ask for, given what directories there are. -/
def libraryOf (settings : Settings) (directoryAt : String → Option Library.Directory) :
    Library.Store :=
  match settings.libraryPath with
  | none => Library.Bundled.store
  | some path => { place := path, directory? := directoryAt path }

def create (environment : Environment) (directoryAt : String → Option Library.Directory) :
    Except StartError App := do
  let settings ← (Settings.read environment).mapError .settings
  if named : settings.appName ≠ "" then
    if mountable : isMount settings.mount = true then
      return { settings, store := libraryOf settings directoryAt, named, mountable }
    else .error .mount
  else .error .unnamed

/-! ## Calls from other origins -/

def crossMethods : List String :=
  ["DELETE", "GET", "HEAD", "OPTIONS", "PATCH", "POST", "PUT", "QUERY"]

def allowsOrigin (app : App) (origin : String) : Bool :=
  app.settings.corsOrigins.contains "*" || app.settings.corsOrigins.contains origin

/-- The answer to a browser that asks whether it may call. -/
def preflight? (app : App) (request : Request) : Option Response :=
  if request.method != "OPTIONS" then none
  else
    match request.header? "origin", request.header? "access-control-request-method" with
    | some origin, some method =>
      let refused := (if app.allowsOrigin origin then [] else ["origin"]) ++
        (if crossMethods.contains method then [] else ["method"]) ++
        if (request.header? "access-control-request-private-network").isSome then
          ["private-network"]
        else []
      if refused.isEmpty then some { status := 200, body := .plain "OK" }
      else some { status := 400
                  body := .plain ("Disallowed CORS " ++ String.intercalate ", " refused) }
    | _, _ => none

/-! ## The log -/

/-- A decoded path as a log shows it: as part of an address, in one line without tabs. -/
def shownPath (path : List Char) : String :=
  String.ofList ((addressPath path).filter fun c => c != '\n' && c != '\r' && c != '\t')

/-- The address of the client, as far as it is known. -/
def clientOf (request : Request) : String :=
  match request.filledHeader? "x-forwarded-for" with
  | some addresses => Text.trim (String.ofList (addresses.toList.takeWhile (· != ',')))
  | none => request.client.getD "unknown"

def levelOf (status : Nat) : Level :=
  if status < 400 then .info else if status < 500 then .warning else .error

/-- Reports a request before and after it is answered, under a name that the response repeats. -/
def logged (occasion : Occasion) (request : Request) (path : String)
    (answered : Trace Failure Response) : Trace Failure Response :=
  let id := (request.filledHeader? "x-request-id").getD occasion.freshId
  let line (text : String) : String :=
    "[" ++ id ++ "] " ++ request.method ++ " " ++ path ++ " - " ++ text
  let before : Message := ⟨.info, line ("Client: " ++ clientOf request)⟩
  match answered.outcome with
  | .ok response =>
    let after : Message :=
      ⟨levelOf response.status, line (toString response.status ++ " - " ++ occasion.elapsed)⟩
    { messages := before :: answered.messages ++ [after]
      outcome := .ok { response with requestId := some id } }
  | .error failure =>
    let after : Message := ⟨.error, line ("ERROR - " ++ occasion.elapsed)⟩
    { messages := before :: answered.messages ++ [after], outcome := .error failure }

def isLogged (path : String) : Bool :=
  !"/health".toList.isPrefixOf path.toList

/-! ## Requests -/

def route (app : App) (occasion : Occasion) (request : Request) : Trace Failure Response := do
  let passage := Route.pass (rules app.settings) request.method request.decodedPath
  match ← Trace.quiet (passage.mapError .route) with
  | .taken endpoint values => answer app.settings app.store occasion request values endpoint
  | .wrongMethod => return .wrongMethod
  | .moved path => return .moved request path
  | .unknown => return .notFound

def exchange (answered : Trace Failure Response) : Exchange :=
  match answered.outcome with
  | .ok response => { messages := answered.messages, response, failure := none }
  | .error failure =>
    { messages := answered.messages, response := .failed, failure := some failure }

def handle (app : App) (occasion : Occasion) (request : Request) : Exchange :=
  match app.preflight? request with
  | some response => { messages := [], response, failure := none }
  | none =>
    let path := shownPath request.decodedPath
    let answered := app.route occasion request
    exchange (if isLogged path then logged occasion request path answered else answered)

/-! ## Start and stop -/

def startMessages (app : App) : List Message :=
  [⟨.info, "Starting " ++ app.settings.appName ++ " v" ++ app.settings.appVersion⟩,
    ⟨.info, "Sample library: " ++ app.store.place⟩,
    ⟨.info, "Debug mode: " ++ if app.settings.debug then "True" else "False"⟩]

def stopMessages : List Message :=
  [⟨.info, "Shutting down..."⟩]

/-- The paths of the pages that document the interface. -/
def guidePath? (app : App) : Option String :=
  if app.settings.debug then some "/docs" else none

def referencePath? (app : App) : Option String :=
  if app.settings.debug then some "/redoc" else none

end App

end DeckPress.Service
