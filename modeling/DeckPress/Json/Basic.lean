import DeckPress.Record

/-!
Documents as they are read: null, booleans, whole numbers of any size, doubles, text, lists, and
objects whose fields keep their order. Whole numbers and doubles stay apart, since they are
written differently.
-/

namespace DeckPress

inductive Json where
  | null
  | bool (b : Bool)
  | int (n : Int)
  | float (x : Float)
  | str (s : String)
  | arr (items : List Json)
  | obj (fields : List (String × Json))
  deriving Inhabited

namespace Json

def fields? : Json → Option (Record Json)
  | .obj fields => some fields
  | _ => none

def get? (j : Json) (key : String) : Option Json :=
  match j with
  | .obj fields => Record.get? fields key
  | _ => none

def isNull : Json → Bool
  | .null => true
  | _ => false

/-- A field that is present and not null. -/
def given? (fields : Record Json) (key : String) : Option Json :=
  match Record.get? fields key with
  | some .null => none
  | found => found

/-- Whether a value counts as set where a switch is read loosely: not null, false, nought or
empty. -/
def truthy : Json → Bool
  | .null => false
  | .bool b => b
  | .int n => n != 0
  | .float x => x != 0.0
  | .str s => s != ""
  | .arr items => !items.isEmpty
  | .obj fields => !fields.isEmpty

end Json

end DeckPress
