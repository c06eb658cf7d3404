import DeckPress.Cascade

/-!
Layers as plain values. A record may also come as a list of pairs, each a name with its value, and
there a name may be any value that holds no others. The first value given for a record has to be
in one of these forms; later ones that are no objects are passed over.
-/

namespace DeckPress.Cascade

inductive LayerError where
  /-- The layer does not hold records by name. -/
  | notKeyed
  /-- The value is no list of pairs, or a name in it is a list or an object. -/
  | notPairs
  /-- The element at an index has a length other than two. -/
  | pairLength (index length : Nat)
  deriving DecidableEq, Repr

def LayerError.message : LayerError → String
  | .notKeyed | .notPairs => ""
  | .pairLength index length =>
    "dictionary update sequence element #" ++ toString index ++ " has length " ++
      toString length ++ "; 2 is required"

/-- A name in a list of pairs, up to its spelling: numbers that are equal are one name, and
booleans count as one and nought. -/
inductive Name where
  | null
  | text (s : String)
  | whole (n : Int)
  /-- A double that is no whole number, by its bits. -/
  | fraction (bits : UInt64)
  deriving DecidableEq, Repr

def Name.of? : Json → Option Name
  | .null => some .null
  | .bool b => some (.whole (if b then 1 else 0))
  | .int n => some (.whole n)
  | .float x =>
    match (Decimal.Binary64.ofFloat x).whole? with
    | some n => some (.whole n)
    | none => some (.fraction x.toBits)
  | .str s => some (.text s)
  | .arr _ | .obj _ => none

/-- Values by name, in order of first appearance, each name as it was spelled first. -/
abbrev Pairs := List (Json × Json)

namespace Pairs

def put (pairs : Pairs) (name value : Json) : Pairs :=
  match pairs with
  | [] => [(name, value)]
  | (spelled, old) :: rest =>
    if Name.of? spelled = Name.of? name then (spelled, value) :: rest
    else (spelled, old) :: put rest name value

def overlay (pairs : Pairs) (record : Record Json) : Pairs :=
  record.foldl (fun written field => written.put (.str field.1) field.2) pairs

end Pairs

/-- The parts of a value that is a sequence: items, glyphs or names. -/
def sequence? : Json → Option (List Json)
  | .arr items => some items
  | .str s => some ((Text.glyphs s.toList).map fun glyph => .str (String.ofList glyph.kept))
  | .obj fields => some (fields.map fun field => .str field.1)
  | _ => none

def pair (index : Nat) (element : Json) : Except LayerError (Json × Json) :=
  match sequence? element with
  | none => .error .notPairs
  | some [name, value] =>
    if (Name.of? name).isSome then .ok (name, value) else .error .notPairs
  | some parts => .error (.pairLength index parts.length)

def pairsOf (value : Json) : Except LayerError Pairs :=
  match value, sequence? value with
  | .obj fields, _ => .ok (Pairs.overlay [] fields)
  | _, none => .error .notPairs
  | _, some elements => do
    let pairs ← elements.zipIdx.mapM fun (element, index) => pair index element
    return pairs.foldl (fun written found => written.put found.1 found.2) []

def addValue (known : Record Pairs) (name : String) (value : Json) :
    Except LayerError (Record Pairs) :=
  match known.get? name with
  | some pairs => .ok (known.put name (pairs.overlay (value.fields?.getD [])))
  | none => do return known.put name (← pairsOf value)

/-- Lays layers of named values over each other, the last one on top. Layers that do not count as
set are passed over. -/
def overlayLayers (layers : List Json) : Except LayerError (Record Pairs) :=
  layers.foldlM (fun known layer =>
    if !layer.truthy then .ok known
    else
      match layer with
      | .obj fields => fields.foldlM (fun known entry => addValue known entry.1 entry.2) known
      | _ => .error .notKeyed) []

end DeckPress.Cascade
