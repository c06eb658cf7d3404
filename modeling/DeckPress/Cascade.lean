import DeckPress.Json.Number
import DeckPress.Json.Plain
import DeckPress.Trace

/-!
The cascade. Shapes come in scopes, from the least to the most specific; records of one shape are
laid over each other field by field, and arrays are replaced whole. Patches of a slide come after
the scopes. What is left is drawn in the order of z, shapes of one z in the order in which they
were introduced.
-/

namespace DeckPress

/-- Shape records by shape id, in order of introduction. -/
abbrev Shapes := Record (Record Json)

namespace Cascade

/-- Partial records laid over each other, the last one on top; other values are passed over. -/
def overlayFields (layers : List Json) : Record Json :=
  layers.foldl (fun merged layer => merged.overlay (layer.fields?.getD [])) []

def addRecord (shapes : Shapes) (id : String) (record : Record Json) : Shapes :=
  shapes.put id (((shapes.get? id).getD []).overlay record)

def overlayRecords (layers : List Shapes) : Shapes :=
  layers.foldl (fun merged layer => layer.foldl (fun m entry => addRecord m entry.1 entry.2) merged)
    []

/-- The id of a listed record: the text of its own, or its place in the list. -/
def listedId (index : Nat) (record : Record Json) : String :=
  match record.get? "id" with
  | none | some .null | some (.str "") => "shape-" ++ toString index
  | some id => id.plainText

def contributions : Json → List (String × Record Json)
  | .obj fields => fields.filterMap fun (id, value) => value.fields?.map fun record => (id, record)
  | .arr items =>
    items.zipIdx.filterMap fun (value, index) =>
      value.fields?.map fun record => (listedId index record, record)
  | _ => []

def shapesOf (scope : Json) : Shapes :=
  overlayRecords [contributions scope]

def ignoredEntries : Json → List Message
  | .obj fields =>
    fields.filterMap fun (id, value) =>
      if value.fields?.isSome then none
      else some ⟨.debug, "Ignoring non-mapping shape record " ++ Text.quoted id⟩
  | .arr items =>
    items.zipIdx.filterMap fun (value, index) =>
      if value.fields?.isSome then none
      else some ⟨.debug, "Ignoring non-mapping shape record at index " ++ toString index⟩
  | _ => []

/-- The shapes of all scopes, the least specific first. -/
def mergeShapes (scopes : List Json) : Shapes :=
  overlayRecords (scopes.map shapesOf)

/-- Lays one patch over the shape that it names; patches that name none have no effect. -/
def applyOverride (shapes : Shapes) (patch : Json) : Shapes :=
  match patch.fields? with
  | none => shapes
  | some fields =>
    match Json.given? fields "shape" with
    | none => shapes
    | some target =>
      match shapes.get? target.plainText with
      | none => shapes
      | some record => shapes.put target.plainText (record.overlay (fields.erase "shape"))

def applyOverrides (shapes : Shapes) (patches : List Json) : Shapes :=
  patches.foldl applyOverride shapes

/-- The height at which a record is stacked; nought unless its z reads as a number. -/
def zValue (record : Record Json) : Except NumberError Float :=
  ((record.get? "z").getD .null).toFloat 0.0

/-- The shapes from the lowest to the highest, ties in order of introduction. -/
def sortByZ (shapes : Shapes) : Except NumberError Shapes := do
  let placed ← shapes.mapM fun entry => do return (Decimal.rank (← zValue entry.2), entry)
  return (placed.mergeSort fun a b => a.1 ≤ b.1).map (·.2)

/-- The height of a background: below every shape, and below nought. -/
def backgroundZ (shapes : Shapes) : Except NumberError Int := do
  let stacked := shapes.filter fun entry => (Json.given? entry.2 "z").isSome
  let floors ← stacked.mapM fun entry => do
    return (Decimal.Binary64.ofFloat (← zValue entry.2)).floor
  return floors.foldl min 0 - 1

end Cascade

end DeckPress
