import DeckPress.Cascade
import DeckPress.Proofs.Record.Overlay

/-!
The law of the cascade. However many scopes there are, in whichever of their two forms, merging
them comes to laying their contributions over each other in one sequence: shapes stand in order of
first contribution, the fields of a shape in order of first appearance, and each field has the
value contributed last. Gathering a scope into a map of its own beforehand changes nothing.
-/

namespace DeckPress.Cascade

open Record

/-! ## What scopes contribute -/

/-- The id of a record in a list: the text of its own, unless that is missing, null or empty, and
otherwise its place. -/
def idAt (index : Nat) (record : Record Json) : String :=
  match Json.given? record "id" with
  | none => "shape-" ++ toString index
  | some (.str own) => if own = "" then "shape-" ++ toString index else own
  | some own => own.plainText

/-- What the elements of a list contribute when the first of them stands at an index. -/
def contributedFrom (index : Nat) : List Json → List (String × Record Json)
  | [] => []
  | .obj record :: rest => (idAt index record, record) :: contributedFrom (index + 1) rest
  | _ :: rest => contributedFrom (index + 1) rest

def contributedFields : Record Json → List (String × Record Json)
  | [] => []
  | (id, .obj record) :: rest => (id, record) :: contributedFields rest
  | _ :: rest => contributedFields rest

/-- What a scope contributes, in its order. Values that are neither objects nor lists contribute
nothing. -/
def contributed : Json → List (String × Record Json)
  | .obj fields => contributedFields fields
  | .arr items => contributedFrom 0 items
  | _ => []

def fieldsUnder (id : String) (entries : List (String × Record Json)) : Record Json :=
  (entries.filter fun entry => entry.1 = id).flatMap (·.2)

theorem listedId_eq (index : Nat) (record : Record Json) :
    listedId index record = idAt index record := by
  unfold listedId idAt Json.given?
  cases record.get? "id" with
  | none => rfl
  | some id =>
    cases id with
    | str own =>
      by_cases empty : own = ""
      · simp [empty]
      · simp [empty]
    | _ => rfl

theorem contributions_list (items : List Json) (index : Nat) :
    ((items.zipIdx index).filterMap fun (value, index) =>
      value.fields?.map fun record => (listedId index record, record)) =
      contributedFrom index items := by
  induction items generalizing index with
  | nil => rfl
  | cons item rest ih =>
    cases item with
    | obj record =>
      rw [contributedFrom, ← ih (index + 1), ← listedId_eq]
      rfl
    | _ => exact ih (index + 1)

theorem contributions_fields (fields : Record Json) :
    (fields.filterMap fun (id, value) => value.fields?.map fun record => (id, record)) =
      contributedFields fields := by
  induction fields with
  | nil => rfl
  | cons field rest ih =>
    obtain ⟨id, value⟩ := field
    cases value with
    | obj record =>
      rw [contributedFields, ← ih]
      rfl
    | _ => exact ih

theorem contributions_eq (scope : Json) : contributions scope = contributed scope := by
  cases scope with
  | obj fields => exact contributions_fields fields
  | arr items => exact contributions_list items 0
  | _ => rfl

/-! ## Laying contributions over shapes -/

def addAll (shapes : Shapes) (entries : List (String × Record Json)) : Shapes :=
  entries.foldl (fun merged entry => addRecord merged entry.1 entry.2) shapes

/-- Every id stands once, and so does every field of a shape. -/
structure Tidy (shapes : Shapes) : Prop where
  ids : Distinct shapes
  fields : ∀ id record, get? shapes id = some record → Distinct record

theorem Tidy.distinct_known {shapes : Shapes} (tidy : Tidy shapes) (id : String) :
    Distinct ((get? shapes id).getD []) := by
  cases known : get? shapes id with
  | none => exact distinct_nil
  | some record => exact tidy.fields id record known

theorem overlayRecords_eq (layers : List Shapes) :
    overlayRecords layers = addAll [] layers.flatten := by
  rw [overlayRecords, addAll, List.foldl_flatten]

theorem addAll_append (shapes : Shapes) (xs ys : List (String × Record Json)) :
    addAll shapes (xs ++ ys) = addAll (addAll shapes xs) ys :=
  List.foldl_append

theorem addAll_concat (shapes : Shapes) (entries : List (String × Record Json))
    (id : String) (record : Record Json) :
    addAll shapes (entries ++ [(id, record)]) = addRecord (addAll shapes entries) id record :=
  addAll_append shapes entries [(id, record)]

theorem tidy_nil : Tidy [] :=
  ⟨distinct_nil, fun _ _ found => by cases found⟩

theorem tidy_addRecord {shapes : Shapes} (tidy : Tidy shapes) (id : String)
    (record : Record Json) : Tidy (addRecord shapes id record) := by
  refine ⟨distinct_put tidy.ids _ _, ?_⟩
  intro other found known
  by_cases same : id = other
  · subst same
    rw [addRecord, get?_put_self] at known
    cases known
    exact distinct_overlay (tidy.distinct_known id) record
  · rw [addRecord, get?_put_of_ne _ _ same] at known
    exact tidy.fields other found known

theorem tidy_addAll {shapes : Shapes} (tidy : Tidy shapes)
    (entries : List (String × Record Json)) : Tidy (addAll shapes entries) := by
  induction entries using List.reverseRecOn with
  | nil => exact tidy
  | append_singleton entries entry ih =>
    rw [addAll_concat]
    exact tidy_addRecord ih entry.1 entry.2

theorem keys_addAll {shapes : Shapes} (tidy : Tidy shapes)
    (entries : List (String × Record Json)) :
    keys (addAll shapes entries) = (keys shapes ++ keys entries).eraseDups := by
  induction entries using List.reverseRecOn with
  | nil =>
    have same : keys shapes ++ keys ([] : Shapes) = keys shapes := List.append_nil _
    rw [same, eraseDups_of_nodup tidy.ids]
    rfl
  | append_singleton entries entry ih =>
    have names : keys shapes ++ keys (entries ++ [entry]) =
        keys shapes ++ keys entries ++ [entry.1] := by
      simp [keys]
    rw [addAll_concat, addRecord, keys_put, ih, names, eraseDups_concat]
    simp only [List.mem_eraseDups]

theorem fieldsUnder_append (id : String) (xs ys : List (String × Record Json)) :
    fieldsUnder id (xs ++ ys) = fieldsUnder id xs ++ fieldsUnder id ys := by
  simp [fieldsUnder]

theorem fieldsUnder_eq_nil {id : String} {entries : List (String × Record Json)}
    (absent : id ∉ keys entries) : fieldsUnder id entries = [] := by
  have none_left : (entries.filter fun entry => entry.1 = id) = [] := by
    rw [List.filter_eq_nil_iff]
    intro entry member same
    exact absent (of_decide_eq_true same ▸ List.mem_map_of_mem member)
  rw [fieldsUnder, none_left, List.flatMap_nil]

/-- What is known of a shape after entries: what was known before, under all fields contributed to
it. -/
theorem get?_addAll (shapes : Shapes) (entries : List (String × Record Json)) (id : String) :
    get? (addAll shapes entries) id =
      if id ∈ keys entries then
        some (((get? shapes id).getD []).overlay (fieldsUnder id entries))
      else get? shapes id := by
  -- From the end, since the last entry is the one that is laid over all others.
  induction entries using List.reverseRecOn with
  | nil => simp [addAll, keys]
  | append_singleton entries entry ih =>
    obtain ⟨other, record⟩ := entry
    have names : id ∈ keys (entries ++ [(other, record)]) ↔ id ∈ keys entries ∨ id = other := by
      simp [keys]
    rw [addAll_concat, addRecord, fieldsUnder_append]
    by_cases same : other = id
    · subst same
      have own : fieldsUnder other [(other, record)] = record := by simp [fieldsUnder]
      rw [get?_put_self, ih, if_pos (names.mpr (Or.inr rfl)), own, overlay_append]
      by_cases before : other ∈ keys entries
      · rw [if_pos before, Option.getD_some]
      · rw [if_neg before, fieldsUnder_eq_nil before, overlay_nil]
    · have own : fieldsUnder id [(other, record)] = [] := by simp [fieldsUnder, same]
      have apart : ¬ id = other := fun found => same found.symm
      rw [get?_put_of_ne _ _ same, ih, own, List.append_nil]
      simp only [names, apart, or_false]

/-! ## Gathering a scope first -/

theorem fieldsUnder_of_distinct {shapes : Shapes} (distinct : Distinct shapes) (id : String) :
    fieldsUnder id shapes = (get? shapes id).getD [] := by
  induction shapes with
  | nil => rfl
  | cons entry rest ih =>
    have fresh := distinct_cons distinct
    have split := fieldsUnder_append id [entry] rest
    rw [List.singleton_append] at split
    rw [split, ih fresh.2]
    by_cases here : entry.1 = id
    · subst here
      simp [fieldsUnder, get?, fresh.1]
    · simp [fieldsUnder, get?, here]

theorem addAll_gathered {shapes : Shapes} (tidy : Tidy shapes)
    (entries : List (String × Record Json)) :
    addAll shapes (addAll [] entries) = addAll shapes entries := by
  have gathered : Tidy (addAll [] entries) := tidy_addAll tidy_nil entries
  have names : keys (addAll [] entries) = (keys entries).eraseDups :=
    keys_addAll tidy_nil entries
  -- Both sides are tidy, so order and values can be compared one by one.
  apply ext_of_distinct (tidy_addAll tidy _).ids (tidy_addAll tidy _).ids
  · rw [keys_addAll tidy, keys_addAll tidy, names, eraseDups_append_eraseDups]
  · intro id
    rw [get?_addAll, get?_addAll, names, fieldsUnder_of_distinct gathered.ids, get?_addAll]
    simp only [List.mem_eraseDups]
    by_cases present : id ∈ keys entries
    · have below := tidy.distinct_known id
      simp only [present, if_true, Option.getD_some, get?_nil, Option.getD_none]
      exact congrArg some (overlay_ofEntries below _)
    · simp only [present, if_false]

theorem shapesOf_eq (scope : Json) : shapesOf scope = addAll [] (contributed scope) := by
  rw [shapesOf, overlayRecords_eq, contributions_eq, List.flatten_singleton]

/-- Merging scopes lays all their contributions over each other in one sequence. -/
theorem mergeShapes_eq (scopes : List Json) :
    mergeShapes scopes = addAll [] (scopes.flatMap contributed) := by
  rw [mergeShapes, overlayRecords_eq]
  induction scopes using List.reverseRecOn with
  | nil => rfl
  | append_singleton scopes scope ih =>
    have gathered := addAll_gathered (tidy_addAll tidy_nil (scopes.flatMap contributed))
      (contributed scope)
    simp only [List.map_append, List.map_cons, List.map_nil, List.flatten_append,
      List.flatten_singleton, List.flatMap_append, List.flatMap_singleton, addAll_append, ih,
      shapesOf_eq, gathered]

theorem tidy_mergeShapes (scopes : List Json) : Tidy (mergeShapes scopes) := by
  rw [mergeShapes_eq]
  exact tidy_addAll tidy_nil _

theorem get?_mergeShapes (scopes : List Json) (id : String) :
    get? (mergeShapes scopes) id =
      if id ∈ keys (scopes.flatMap contributed) then
        some (ofEntries (fieldsUnder id (scopes.flatMap contributed)))
      else none := by
  rw [mergeShapes_eq, get?_addAll]
  rfl

/-- The merged shapes stand in order of first contribution. Each has the fields contributed to it
in order of first appearance, with the value contributed last. -/
theorem mergeShapes_last_wins (scopes : List Json) :
    (mergeShapes scopes).keys = (keys (scopes.flatMap contributed)).eraseDups ∧
    ∀ id ∈ (mergeShapes scopes).keys, ∃ record, (mergeShapes scopes).get? id = some record ∧
      record.keys = (keys (fieldsUnder id (scopes.flatMap contributed))).eraseDups ∧
      ∀ name, record.get? name = last? (fieldsUnder id (scopes.flatMap contributed)) name := by
  have names : (mergeShapes scopes).keys = (keys (scopes.flatMap contributed)).eraseDups := by
    rw [mergeShapes_eq]
    exact keys_addAll tidy_nil _
  refine ⟨names, ?_⟩
  intro id member
  have present : id ∈ keys (scopes.flatMap contributed) := by
    rw [names] at member
    exact List.mem_eraseDups.mp member
  refine ⟨ofEntries (fieldsUnder id (scopes.flatMap contributed)), ?_, keys_ofEntries _,
    get?_ofEntries _⟩
  rw [get?_mergeShapes, if_pos present]

/-- A list that names one shape twice and another not at all, a scope that is none, and a map. -/
def mixedScopes : List Json :=
  [.arr [.obj [("id", .str "a"), ("x", .int 1), ("items", .arr [.int 1, .int 2])], .null,
      .obj [("x", .int 2)], .obj [("y", .int 3), ("id", .str "a")]],
    .bool true,
    .obj [("b", .obj []), ("c", .int 5), ("a", .obj [("items", .arr []), ("x", .null)])]]

theorem mergeShapes_last_wins_mixed :
    (mergeShapes mixedScopes).keys = ["a", "shape-2", "b"] ∧
    "a" ∈ (mergeShapes mixedScopes).keys ∧
    ∃ record, (mergeShapes mixedScopes).get? "a" = some record ∧
      record.keys = ["id", "x", "items", "y"] ∧
      record.get? "x" = some .null ∧ record.get? "items" = some (.arr []) := by
  have law := mergeShapes_last_wins mixedScopes
  have names : (mergeShapes mixedScopes).keys = ["a", "shape-2", "b"] := law.1.trans (by decide)
  have member : "a" ∈ (mergeShapes mixedScopes).keys := by rw [names]; decide
  obtain ⟨record, known, fields, values⟩ := law.2 "a" member
  exact ⟨names, member, record, known, fields.trans (by decide), (values "x").trans rfl,
    (values "items").trans rfl⟩

end DeckPress.Cascade
