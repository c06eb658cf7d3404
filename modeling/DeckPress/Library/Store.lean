import DeckPress.Json.Reader
import DeckPress.Trace

/-!
Libraries of decks. A library is a directory; each entry whose name ends in `.json` is a deck of
that name without the ending. Names are listed in order, and only names that are listed are looked
up, so a name never leads out of the directory. Documents are read each time they are asked for.
-/

namespace DeckPress.Library

inductive Entry where
  | file (text : String)
  | directory
  deriving DecidableEq, Repr

abbrev Directory := Record Entry

def ending : List Char := ".json".toList

/-- The name of the deck in a file. A file that is called nothing but the ending is a deck of that
very name. -/
def deckName? (file : String) : Option String :=
  if file.toList = ending then some file
  else if ending.isSuffixOf file.toList then
    some (String.ofList (file.toList.take (file.toList.length - ending.length)))
  else none

def fileOf (name : String) : String :=
  name ++ ".json"

inductive ReadError where
  /-- The file is not there. -/
  | noFile
  /-- A directory has the file's name. -/
  | isDirectory
  | notJson (name : String)
  /-- The document is no object. -/
  | notDeck (name : String)
  /-- A whole number in the document has more digits than are read. -/
  | longNumber (digits : Nat)
  /-- The document is nested too deeply. -/
  | tooDeep
  deriving DecidableEq, Repr

def ReadError.message : ReadError → String
  | .noFile | .isDirectory | .tooDeep => ""
  | .longNumber digits => (Json.DocumentError.longNumber digits).message
  | .notJson name => "Sample '" ++ name ++ "' is not valid JSON"
  | .notDeck name => "Sample '" ++ name ++ "' is not a deck object"

inductive FindError where
  | unknown (name : String)
  | unreadable (cause : ReadError)
  deriving DecidableEq, Repr

def FindError.message : FindError → String
  | .unknown name => "Sample '" ++ name ++ "' not found"
  | .unreadable cause => cause.message

/-- A library: where it is, and the directory there, if there is one. -/
structure Store where
  place : String
  directory? : Option Directory

namespace Store

def namesIn (directory : Directory) : List String :=
  (directory.keys.filterMap deckName?).mergeSort fun a b => a ≤ b

/-- Lists the names of the decks. A library that is not there is reported and has none. -/
def names {ε : Type} (store : Store) : Trace ε (List String) :=
  match store.directory? with
  | some directory => pure (namesIn directory)
  | none => do
    Trace.report .warning ("Sample library " ++ store.place ++ " does not exist")
    return []

def count {ε : Type} (store : Store) : Trace ε Nat := do
  return (← store.names).length

def readDeck (directory : Directory) (name : String) : Except ReadError (Record Json) :=
  match directory.get? (fileOf name) with
  | none => .error .noFile
  | some .directory => .error .isDirectory
  | some (.file text) =>
    match Json.read text with
    | .ok (.obj fields) => .ok fields
    | .ok _ => .error (.notDeck name)
    | .error .malformed => .error (.notJson name)
    | .error (.longNumber digits) => .error (.longNumber digits)
    | .error .tooDeep => .error .tooDeep

/-- The deck of a name, when the name is listed. -/
def get? (store : Store) (name : String) : Trace ReadError (Option (Record Json)) := do
  if name ∈ (← store.names) then
    return some (← Trace.quiet (readDeck (store.directory?.getD []) name))
  else return none

/-- The deck of a name; a name that is not listed is an error. -/
def get (store : Store) (name : String) : Trace FindError (Record Json) := do
  match ← (store.get? name).mapError .unreadable with
  | some deck => return deck
  | none => Trace.quiet (.error (.unknown name))

end Store

end DeckPress.Library
