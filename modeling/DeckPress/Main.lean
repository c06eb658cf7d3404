import DeckPress.Service.App

/-!
The command line. Without arguments a deck document is read from standard input and its fragment
is written to standard output; with the name of a deck of the library, that deck is rendered. The
settings come from the environment, completed by a file `.env` in the current directory. Messages
go to standard error.
-/

namespace DeckPress.CommandLine

def readEnvironment : IO (Except Service.EnvironmentError Service.Environment) := do
  let given ← Service.Settings.variableNames.filterMapM fun name => do
    return (← IO.getEnv name).map fun value => (name, Text.kept value)
  let file ← try IO.FS.readFile ".env" catch _ => pure ""
  return Service.Environment.load given (Text.kept file)

def report (messages : List Message) : IO Unit := do
  for message in messages do
    IO.eprintln (message.level.name ++ " " ++ Text.shown message.text)

def complain (text : String) : IO UInt32 := do
  IO.eprintln (Text.shown text)
  return 1

/-- Writes what was rendered; the exit code says whether anything could be. -/
def finish (rendered : Trace Service.Failure String) : IO UInt32 := do
  report rendered.messages
  match rendered.outcome with
  | .ok html =>
    IO.print (Text.shown html)
    return 0
  | .error failure =>
    complain failure.message

/-- The text of a stream, after what has been read. -/
partial def readAll (stream : IO.FS.Stream) (text : String) : IO String := do
  let line ← stream.getLine
  if line.isEmpty then return text
  readAll stream (text ++ line)

def renderInput (app : Service.App) : IO UInt32 := do
  let input ← readAll (← IO.getStdin) ""
  match Json.read? (Text.kept input) with
  | some document => finish (Service.renderAs app.settings {} document)
  | none => complain "The input is not valid JSON"

def renderNamed (app : Service.App) (name : String) : IO UInt32 := do
  match (app.store.get (Text.kept name)).outcome with
  | .ok deck => finish (Service.renderSample app.settings {} deck)
  | .error cause => complain cause.message

def run (arguments : List String) : IO UInt32 := do
  match ← readEnvironment with
  | .error cause => complain cause.message
  | .ok environment =>
    match Service.App.create environment fun _ => none with
    | .error cause => complain cause.message
    | .ok app =>
      match arguments with
      | [] => renderInput app
      | [name] => renderNamed app name
      | _ => complain "usage: deckpress [NAME]"

end DeckPress.CommandLine

def main (arguments : List String) : IO UInt32 :=
  DeckPress.CommandLine.run arguments
