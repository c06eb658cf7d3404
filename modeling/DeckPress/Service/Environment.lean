import DeckPress.Record
import DeckPress.Text.Blank
import DeckPress.Text.Split

/-!
The environment and the file that completes it. A line of the file that is not a comment and has
an equals sign sets a variable, when name and value are not empty once trimmed. Variables that are
set already, even to the empty text, keep their values; so the first line for a name decides, and
reading the file again changes nothing.
-/

namespace DeckPress.Service

/-- Variables with their values. -/
abbrev Environment := Record String

inductive EnvironmentError where
  /-- A name or a value holds the character that ends both. -/
  | nulCharacter
  deriving DecidableEq, Repr

def EnvironmentError.message : EnvironmentError → String
  | .nulCharacter => "embedded null byte"

namespace Environment

def assignment? (line : List Char) : Option (String × String) :=
  let line := Text.trimBoth Text.isBlank line
  if line.head? = some '#' then none
  else
    match Text.splitFirst? (· == '=') line with
    | none => none
    | some (name, value) =>
      match Text.trimBoth Text.isBlank name, Text.trimBoth Text.isBlank value with
      | [], _ | _, [] => none
      | name, value => some (String.ofList name, String.ofList value)

/-- The variables that the lines of a file set. Lines end at a line feed, a carriage return, or
both; the line between the two characters is empty and sets nothing. -/
def assignments (text : String) : List (String × String) :=
  (Text.split (fun c => c == '\n' || c == '\r') text.toList).filterMap assignment?

def complete (environment : Environment) (setting : String × String) :
    Except EnvironmentError Environment :=
  if environment.contains setting.1 then .ok environment
  else if (setting.1 ++ setting.2).toList.contains (Char.ofNat 0) then .error .nulCharacter
  else .ok (environment.put setting.1 setting.2)

def load (environment : Environment) (text : String) : Except EnvironmentError Environment :=
  (assignments text).foldlM complete environment

def getOr (environment : Environment) (name default : String) : String :=
  (environment.get? name).getD default

end Environment

end DeckPress.Service
