import DeckPress.Decimal.Numeral
import DeckPress.Entity.Policy
import DeckPress.Service.Environment
import DeckPress.Text.Quoted
import DeckPress.Text.Uppercase

/-!
The settings of the service, read from the environment. Only the port can be wrong; every other
variable is taken as it is. The deck class is checked when a policy is made from the settings.
-/

namespace DeckPress.Service

inductive SettingsError where
  /-- The port is no whole number. -/
  | port (text : String)
  /-- The port has more digits than are read. -/
  | portLength (digits : Nat)
  deriving DecidableEq, Repr

/-- How many characters of a wrong port a message shows. -/
def shownLength : Nat := 200

def SettingsError.message : SettingsError → String
  | .port text =>
    "invalid literal for int() with base 10: " ++
      String.ofList ((Text.quoted text).toList.take shownLength)
  | .portLength digits => Decimal.Numeral.lengthMessage digits

def readPort (text : String) : Except SettingsError Int :=
  match Decimal.Numeral.whole text with
  | .ok port => .ok port
  | .error .notWhole => .error (.port text)
  | .error (.tooLong digits) => .error (.portLength digits)

/-- A switch with three positions: none when it is unset or blank. -/
def readSwitch (text : String) : Option Bool :=
  let word := (Text.trimBoth Text.isBlank text.toList).map Char.toLower
  if word.isEmpty then none
  else some (String.ofList word ∈ ["1", "true", "yes", "on"])

/-- The items of a list with commas, trimmed; blank ones are left out. -/
def readList (text : String) : List String :=
  ((Text.split (· == ',') text.toList).map (Text.trimBoth Text.isBlank)).filterMap fun item =>
    if item.isEmpty then none else some (String.ofList item)

/-- The slashes that a path starts with: one stands for any number but two. -/
def pathRoot (path : List Char) : List Char :=
  match (path.takeWhile (· == '/')).length with
  | 0 => []
  | 2 => ['/', '/']
  | _ => ['/']

/-- A path without empty steps and steps that stay in place. Steps up are kept. -/
def normalPath (path : String) : String :=
  let steps := (Text.split (· == '/') path.toList).filter fun step =>
    !step.isEmpty && step != ['.']
  match pathRoot path.toList, steps with
  | [], [] => "."
  | root, steps =>
    String.ofList root ++ String.intercalate "/" (steps.map String.ofList)

structure Settings where
  appName : String
  appVersion : String
  host : String
  port : Int
  debug : Bool
  logLevel : String
  corsOrigins : List String
  /-- What the addresses of the service start with. -/
  mount : String
  /-- Where the library is; none for the decks that come with the program. -/
  libraryPath : Option String
  layoutLookup : String
  tokenResolution : Option Bool
  deckClass : String
  deriving DecidableEq, Repr

namespace Settings

def variableNames : List String :=
  ["SLIDEMARK_APP_NAME", "HOST", "PORT", "SLIDEMARK_DEBUG", "LOG_LEVEL", "CORS_ORIGINS",
    "SLIDEMARK_API_PREFIX", "SLIDEMARK_SAMPLES_DIR", "SLIDEMARK_LAYOUT_LOOKUP",
    "SLIDEMARK_TOKEN_RESOLUTION", "SLIDEMARK_DECK_CLASS"]

def defaultOrigins : String :=
  "http://localhost:3000,http://localhost:5173,http://127.0.0.1:3000,http://127.0.0.1:5173"

def read (environment : Environment) : Except SettingsError Settings := do
  let value := environment.getOr
  let port ← readPort (value "PORT" "8000")
  return {
    appName := value "SLIDEMARK_APP_NAME" "Slidemark"
    appVersion := "1.0.0"
    host := value "HOST" "0.0.0.0"
    port
    debug := String.ofList ((value "SLIDEMARK_DEBUG" "false").toList.map Char.toLower) = "true"
    logLevel := Text.uppercase (value "LOG_LEVEL" "INFO")
    corsOrigins := readList (value "CORS_ORIGINS" defaultOrigins)
    mount := value "SLIDEMARK_API_PREFIX" "/api/v1"
    libraryPath :=
      match value "SLIDEMARK_SAMPLES_DIR" "" with
      | "" => none
      | path => some (normalPath path)
    layoutLookup := value "SLIDEMARK_LAYOUT_LOOKUP" "map"
    tokenResolution := readSwitch (value "SLIDEMARK_TOKEN_RESOLUTION" "")
    deckClass := value "SLIDEMARK_DECK_CLASS" ClassName.default.text }

def policyOf (settings : Settings) (lookup : LayoutLookup) : Except Refusal RenderPolicy :=
  let preset := match lookup with
    | .masterList => RenderPolicy.mastered
    | .map => RenderPolicy.keyed
  preset.set (("deck_class", .str settings.deckClass) ::
    (settings.tokenResolution.map fun b => ("token_resolution", Json.bool b)).toList)

/-- The convention that a word stands for. Words other than the one for masters stand for keys. -/
def lookupOf (word : String) : LayoutLookup :=
  if word = LayoutLookup.masterList.name then .masterList else .map

/-- The policy of a request: its own choices come before the configured ones. The empty word is
no choice. -/
def policy (settings : Settings) (lookup : Option String) (tokens : Option Bool) :
    Except Refusal RenderPolicy := do
  let word := match lookup with
    | none | some "" => settings.layoutLookup
    | some word => word
  let policy ← settings.policyOf (lookupOf word)
  return { policy with tokenResolution := tokens.getD policy.tokenResolution }

end Settings

end DeckPress.Service
