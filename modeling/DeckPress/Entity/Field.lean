import DeckPress.Decimal.Numeral
import DeckPress.Json.Plain

/-!
Reading entities from records. A reader takes a value or counts its faults; a field names the
spellings under which an entity looks for a value, the first one present being used; an entity is
read when no field is at fault. Fields are read independently of each other.
-/

namespace DeckPress

/-- A number as its author wrote it: a whole number, a double, or text. -/
inductive Amount where
  | int (n : Int)
  | float (x : Float)
  | text (s : String)

def Amount.toJson : Amount → Json
  | .int n => .int n
  | .float x => .float x
  | .text s => .str s

def Amount.styleText (a : Amount) : String :=
  a.toJson.styleText

inductive Collection where
  | keyed (fields : Record Json)
  | listed (items : List Json)

def Collection.toJson : Collection → Json
  | .keyed fields => .obj fields
  | .listed items => .arr items

/-- Why an entity could not be read: it is no record, a name in it holds half a pair, or fields
are at fault. Each field comes with the number of its faults, in the order in which the
entity declares them. -/
inductive Refusal where
  | notRecord
  | brokenName
  | fields (faults : List (String × Nat))
  deriving DecidableEq, Repr

def total (numbers : List Nat) : Nat :=
  numbers.foldr (· + ·) 0

namespace Refusal

def count : Refusal → Nat
  | .notRecord | .brokenName => 1
  | .fields faults => total (faults.map (·.2))

/-- The fields at fault, under the spelling that was used. -/
def names : Refusal → List String
  | .notRecord | .brokenName => []
  | .fields faults => faults.map (·.1)

def message (r : Refusal) : String :=
  toString r.count ++ ": " ++ String.intercalate "," r.names

end Refusal

/-- Takes a value, or counts what is wrong with it. -/
abbrev Reader (α : Type) := Json → Except Nat α

namespace Reader

/-- Text. A number counts as the text that it is written as. -/
def text : Reader String
  | .str s => .ok s
  | .int n => .ok (toString n)
  | .float x => .ok (Decimal.write x)
  | _ => .error 1

def onlyText : Reader String
  | .str s => .ok s
  | _ => .error 1

/-- A number as written. A boolean counts as one or nought. The three faults of anything else are
that it is no whole number, no double and no text. -/
def amount : Reader Amount
  | .int n => .ok (.int n)
  | .float x => .ok (.float x)
  | .str s => .ok (.text s)
  | .bool b => .ok (.int (if b then 1 else 0))
  | _ => .error 3

def flagWord? (s : String) : Option Bool :=
  let word := String.ofList (s.toList.map Char.toLower)
  if word ∈ ["1", "true", "t", "yes", "y", "on"] then some true
  else if word ∈ ["0", "false", "f", "no", "n", "off"] then some false
  else none

def flag : Reader Bool
  | .bool b => .ok b
  | .int 0 => .ok false
  | .int 1 => .ok true
  | .float x => if x == 0.0 then .ok false else if x == 1.0 then .ok true else .error 1
  | .str s =>
    match flagWord? s with
    | some b => .ok b
    | none => .error 1
  | _ => .error 1

def double : Reader Float
  | .float x => .ok x
  | .int n =>
    match Decimal.ofInt? n with
    | some x => .ok x
    | none => .error 1
  | .bool b => .ok (if b then 1.0 else 0.0)
  | .str s =>
    match Decimal.Numeral.plainDouble? s with
    | some x => .ok x
    | none => .error 1
  | _ => .error 1

def list : Reader (List Json)
  | .arr items => .ok items
  | _ => .error 1

def table : Reader (Record Json)
  | .obj fields => .ok fields
  | _ => .error 1

def collection : Reader Collection
  | .obj fields => .ok (.keyed fields)
  | .arr items => .ok (.listed items)
  | _ => .error 2

def optional {α : Type} (reader : Reader α) : Reader (Option α)
  | .null => .ok none
  | j => (reader j).map some

def word {α : Type} (meanings : List (String × α)) : Reader α
  | .str s =>
    match Record.get? meanings s with
    | some meaning => .ok meaning
    | none => .error 1
  | _ => .error 1

def faults {α : Type} (reader : Reader α) (j : Json) : Nat :=
  match reader j with
  | .ok _ => 0
  | .error n => n

end Reader

def Record.pick? (r : Record Json) (spellings : List String) : Option (String × Json) :=
  spellings.findSome? fun name => (r.get? name).map fun value => (name, value)

/-- What a reader makes of a field, when it is present and not at fault. -/
def Record.value? {α : Type} (r : Record Json) (reader : Reader α) (spellings : List String) :
    Option α :=
  match r.pick? spellings with
  | some (_, value) => (reader value).toOption
  | none => none

structure Field where
  /-- The spellings that are looked for, the preferred one first. -/
  spellings : List String
  faults : Json → Nat
  /-- The faults of a record without the field, and the name they are reported under. -/
  absent : Option (String × Nat)

namespace Field

def may {α : Type} (spellings : List String) (reader : Reader α) : Field :=
  { spellings, faults := reader.faults, absent := none }

def must {α : Type} (name : String) (reader : Reader α) : Field :=
  { spellings := [name], faults := reader.faults, absent := some (name, 1) }

def fault? (field : Field) (r : Record Json) : Option (String × Nat) :=
  match r.pick? field.spellings with
  | some (name, value) => if field.faults value = 0 then none else some (name, field.faults value)
  | none => field.absent

def faultsOf (fields : List Field) (r : Record Json) : List (String × Nat) :=
  fields.filterMap (·.fault? r)

/-- What a record holds beside the values of its fields. -/
def extras (fields : List Field) (r : Record Json) : Record Json :=
  let used := fields.filterMap fun field => (r.pick? field.spellings).map (·.1)
  r.filter fun entry => !used.contains entry.1

def build {α : Type} (fields : List Field) (make : Record Json → α) (r : Record Json) :
    Except Refusal α :=
  match faultsOf fields r with
  | [] => .ok (make r)
  | faults => .error (.fields faults)

end Field

def Record.withoutNulls (r : Record Json) : Record Json :=
  r.filter fun entry => !entry.2.isNull

/-- Reads an entity for which null means absent. A name that holds half a pair hides all other
faults. -/
def readEntity {α : Type} (fields : List Field) (make : Record Json → α) (j : Json) :
    Except Refusal α :=
  match j with
  | .obj entries =>
    let given := Record.withoutNulls entries
    if given.keys.any Text.hasHalf then .error .brokenName else Field.build fields make given
  | _ => .error .notRecord

/-- A reader for an entity inside another; its faults count together. -/
def Reader.entity {α : Type} (read : Json → Except Refusal α) : Reader α := fun j =>
  match read j with
  | .ok a => .ok a
  | .error refusal => .error refusal.count

end DeckPress
