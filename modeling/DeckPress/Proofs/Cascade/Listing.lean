import Mathlib
import DeckPress.Proofs.Cascade.Regroup

/-!
Records in a list. A record with an id stands under the text of it, and one without under its place
in the list. Two places are never confused, but an id may spell the place of a record that has
none; then the two records are laid over each other.
-/

namespace DeckPress.Cascade

open Record

/-- The text of a record's id; none when the id is missing, null or empty. -/
def ownId? (record : Record Json) : Option String :=
  match record.get? "id" with
  | none | some .null | some (.str "") => none
  | some id => some id.plainText

def placeName (index : Nat) : String :=
  "shape-" ++ toString index

def RecordAt (items : List Json) (index : Nat) (record : Record Json) : Prop :=
  items[index]? = some (.obj record)

def ownIds (items : List Json) : List String :=
  items.filterMap fun item => item.fields?.bind ownId?

def unnamed (items : List Json) : List Nat :=
  (items.zipIdx.filter fun (item, _) => item.fields?.any fun record => (ownId? record).isNone).map
    (·.2)

def under (items : List Json) (id : String) : List Json :=
  (items.zipIdx.filter fun (item, index) => item.fields?.map (listedId index) = some id).map (·.1)

theorem listedId_eq_getD (index : Nat) (record : Record Json) :
    listedId index record = (ownId? record).getD (placeName index) := by
  unfold listedId ownId?
  split <;> simp_all [placeName]

theorem placeName_inj {i j : Nat} (same : placeName i = placeName j) : i = j :=
  Nat.repr_injective ((String.append_right_inj "shape-").mp same)

/-! ## Keys -/

section Keys

variable {items : List Json} {id : String} {index : Nat} {record : Record Json}

theorem mem_zipIdx_iff : (.obj record, index) ∈ items.zipIdx ↔ RecordAt items index record :=
  List.mem_zipIdx_iff_getElem?

theorem mem_ownIds : id ∈ ownIds items ↔
    ∃ index record, RecordAt items index record ∧ ownId? record = some id := by
  unfold ownIds
  rw [List.mem_filterMap]
  constructor
  · rintro ⟨item, member, own⟩
    obtain ⟨index, here⟩ := List.mem_iff_getElem?.mp member
    cases item with
    | obj record => exact ⟨index, record, here, own⟩
    | _ => cases own
  · rintro ⟨index, record, here, own⟩
    exact ⟨.obj record, List.mem_of_getElem? here, own⟩

theorem mem_unnamed : index ∈ unnamed items ↔
    ∃ record, RecordAt items index record ∧ ownId? record = none := by
  unfold unnamed
  rw [List.mem_map]
  constructor
  · rintro ⟨⟨item, index⟩, member, rfl⟩
    obtain ⟨member, lacks⟩ := List.mem_filter.mp member
    cases item with
    | obj record => exact ⟨record, mem_zipIdx_iff.mp member, by simpa [Json.fields?] using lacks⟩
    | _ => cases lacks
  · rintro ⟨record, here, lacks⟩
    exact ⟨(.obj record, index),
      List.mem_filter.mpr ⟨mem_zipIdx_iff.mpr here, by simp [Json.fields?, lacks]⟩, rfl⟩

theorem nodup_unnamed (items : List Json) : (unnamed items).Nodup := by
  refine List.Nodup.sublist (List.filter_sublist.map _) ?_
  rw [List.zipIdx_map_snd]
  exact List.nodup_range'

theorem under_eq (items : List Json) (id : String) :
    under items id = ((contributed (.arr items)).filter fun entry => entry.1 = id).map
      fun entry => .obj entry.2 := by
  rw [← contributions_eq]
  unfold under contributions
  rw [List.filter_filterMap, List.map_filterMap, ← List.filterMap_eq_filter, List.map_filterMap]
  congr 1
  funext ⟨item, index⟩
  cases item with
  | obj record =>
    by_cases here : listedId index record = id <;>
      simp [Json.fields?, here, Option.filter, Option.guard]
  | _ => rfl

theorem mem_keys_listed : id ∈ (shapesOf (.arr items)).keys ↔
    ∃ index record, RecordAt items index record ∧ listedId index record = id := by
  rw [shapesOf_eq, keys_addAll tidy_nil, List.mem_eraseDups, ← contributions_eq]
  simp only [keys, List.map_nil, List.nil_append, List.mem_map, contributions, List.mem_filterMap]
  constructor
  · rintro ⟨entry, ⟨⟨item, index⟩, member, found⟩, rfl⟩
    cases item with
    | obj record =>
      cases found
      exact ⟨index, record, mem_zipIdx_iff.mp member, rfl⟩
    | _ => cases found
  · rintro ⟨index, record, here, rfl⟩
    exact ⟨_, ⟨_, mem_zipIdx_iff.mpr here, rfl⟩, rfl⟩

end Keys

/-- Under a key stands what the records of that key amount to, laid over each other. -/
theorem get?_listed (items : List Json) (id : String) :
    (shapesOf (.arr items)).get? id =
      if under items id = [] then none else some (overlayFields (under items id)) := by
  have nothing : under items id = [] ↔ id ∉ keys (contributed (.arr items)) := by
    rw [under_eq, List.map_eq_nil_iff, List.filter_eq_nil_iff, keys, List.mem_map]
    simp only [decide_eq_true_eq, not_exists, not_and]
  have fields : (under items id).flatMap fieldsOf = fieldsUnder id (contributed (.arr items)) := by
    rw [under_eq, List.flatMap_map]
    rfl
  rw [shapesOf_eq, get?_addAll, overlayFields_eq, fields]
  by_cases present : id ∈ keys (contributed (.arr items))
  · rw [if_pos present, if_neg (by simp [nothing, present])]
    rfl
  · rw [if_neg present, if_pos (nothing.mpr present)]
    rfl

/-! ## One key for two records -/

/-- Two records of a list that stand under one key: both have ids of one text, or the id of one
spells the place of the other, which has none. -/
def Clash (i j : Nat) (lower upper : Record Json) : Prop :=
  (∃ text, ownId? lower = some text ∧ ownId? upper = some text) ∨
  (ownId? lower = none ∧ ownId? upper = some (placeName i)) ∨
  (ownId? upper = none ∧ ownId? lower = some (placeName j))

theorem listedId_eq_iff {i j : Nat} (apart : i ≠ j) (lower upper : Record Json) :
    listedId i lower = listedId j upper ↔ Clash i j lower upper := by
  rw [listedId_eq_getD, listedId_eq_getD, Clash]
  cases ownId? lower with
  | none =>
    cases ownId? upper with
    | none => simpa using fun same => apart (placeName_inj same)
    | some text => simp [eq_comm]
  | some text => cases ownId? upper <;> simp [eq_comm]

theorem alone_of_unspelled {items : List Json} {i j : Nat} {record other : Record Json}
    (lacks : ownId? record = none) (unspelled : placeName i ∉ ownIds items)
    (there : RecordAt items j other) (same : listedId j other = placeName i) : j = i := by
  by_contra apart
  have clash : Clash j i other record := by
    rw [← listedId_eq_iff apart, same, listedId_eq_getD, lacks]
    rfl
  rcases clash with ⟨text, -, named⟩ | ⟨-, named⟩ | ⟨-, named⟩
  · cases lacks.symm.trans named
  · cases lacks.symm.trans named
  · exact unspelled (mem_ownIds.mpr ⟨j, other, there, named⟩)

/-! ## How many keys there are -/

def unspelled (items : List Json) : List Nat :=
  (unnamed items).filter fun index => placeName index ∉ ownIds items

theorem keys_listed_perm (items : List Json) :
    (shapesOf (.arr items)).keys.Perm
      ((ownIds items).eraseDups ++ (unspelled items).map placeName) := by
  have places : ((unspelled items).map placeName).Nodup :=
    ((nodup_unnamed items).filter _).map fun _ _ => placeName_inj
  have disjoint : List.Disjoint (ownIds items).eraseDups ((unspelled items).map placeName) := by
    intro id own place
    obtain ⟨index, free, rfl⟩ := List.mem_map.mp place
    exact of_decide_eq_true (List.mem_filter.mp free).2 (List.mem_eraseDups.mp own)
  refine (List.perm_ext_iff_of_nodup ?_ ?_).mpr fun id => ?_
  · rw [shapesOf_eq]
    exact (tidy_addAll tidy_nil _).ids
  · exact List.Nodup.append (nodup_eraseDups _) places disjoint
  rw [mem_keys_listed, List.mem_append, List.mem_eraseDups, List.mem_map]
  constructor
  · rintro ⟨index, record, here, rfl⟩
    rw [listedId_eq_getD]
    cases own : ownId? record with
    | some text => exact .inl (mem_ownIds.mpr ⟨index, record, here, own⟩)
    | none =>
      by_cases spelled : placeName index ∈ ownIds items
      · exact .inl spelled
      · exact .inr ⟨index, List.mem_filter.mpr
          ⟨mem_unnamed.mpr ⟨record, here, own⟩, decide_eq_true spelled⟩, rfl⟩
  · rintro (own | ⟨index, free, rfl⟩)
    · obtain ⟨index, record, here, own⟩ := mem_ownIds.mp own
      exact ⟨index, record, here, by rw [listedId_eq_getD, own]; rfl⟩
    · obtain ⟨record, here, lacks⟩ := mem_unnamed.mp (List.mem_filter.mp free).1
      exact ⟨index, record, here, by rw [listedId_eq_getD, lacks]; rfl⟩

/-- A record without an id stands under its place, and no other record does unless its id spells
that place; records at two places share a key only then, or when their ids have one text. What
stands under a key are its records laid over each other, and there are as many keys as ids of
different texts and records without an id whose place no id spells. -/
theorem shapesOf_listed (items : List Json) :
    (∀ i record, RecordAt items i record → ownId? record = none →
      listedId i record = placeName i ∧
      (placeName i ∉ ownIds items →
        ∀ j other, RecordAt items j other → listedId j other = placeName i → j = i)) ∧
    (∀ i j lower upper, i ≠ j → RecordAt items i lower → RecordAt items j upper →
      (listedId i lower = listedId j upper ↔ Clash i j lower upper)) ∧
    (∀ id, (shapesOf (.arr items)).get? id =
      if under items id = [] then none else some (overlayFields (under items id))) ∧
    (shapesOf (.arr items)).keys.length =
      (ownIds items).eraseDups.length + (unspelled items).length := by
  refine ⟨?_, ?_, get?_listed items, ?_⟩
  · intro i record here lacks
    refine ⟨by rw [listedId_eq_getD, lacks]; rfl, ?_⟩
    intro unspelled j other there same
    exact alone_of_unspelled lacks unspelled there same
  · intro i j lower upper apart _ _
    exact listedId_eq_iff apart lower upper
  · rw [(keys_listed_perm items).length_eq, List.length_append, List.length_map]

/-- Ids of two types and one text, a record whose id is empty, and an id that spells the place of
another record. -/
def mixedList : List Json :=
  [.obj [("id", .str "shape-1"), ("x", .int 1)], .obj [("y", .int 2)], .null,
    .obj [("id", .int 7)], .obj [("id", .str "")], .obj [("id", .str "7")]]

theorem shapesOf_listed_mixed :
    RecordAt mixedList 4 [("id", .str "")] ∧ ownId? [("id", .str "")] = none ∧
    placeName 4 ∉ ownIds mixedList ∧
    (∀ j other, RecordAt mixedList j other → listedId j other = placeName 4 → j = 4) ∧
    (3 : Nat) ≠ 5 ∧ RecordAt mixedList 3 [("id", .int 7)] ∧
    RecordAt mixedList 5 [("id", .str "7")] ∧
    listedId 3 [("id", .int 7)] = listedId 5 [("id", .str "7")] ∧
    (shapesOf (.arr mixedList)).keys.length = 3 := by
  obtain ⟨alone, shared, -, count⟩ := shapesOf_listed mixedList
  have free : placeName 4 ∉ ownIds mixedList := by decide
  exact ⟨rfl, rfl, free, (alone 4 _ rfl rfl).2 free, by decide, rfl, rfl,
    (shared 3 5 _ _ (by decide) rfl rfl).mpr (.inl ⟨"7", by decide, by decide⟩),
    count.trans (by decide)⟩

def clashingList : List Json :=
  [.obj [("id", .str "shape-1"), ("x", .int 1)], .obj [("y", .int 2)]]

theorem shapesOf_listed_clash :
    RecordAt clashingList 0 [("id", .str "shape-1"), ("x", .int 1)] ∧
    RecordAt clashingList 1 [("y", .int 2)] ∧
    ownId? [("y", .int 2)] = none ∧
    listedId 0 [("id", .str "shape-1"), ("x", .int 1)] = listedId 1 [("y", .int 2)] ∧
    (shapesOf (.arr clashingList)).keys.length ≠
      (unnamed clashingList).length + (ownIds clashingList).eraseDups.length := by
  refine ⟨rfl, rfl, rfl, by decide, by decide⟩

end DeckPress.Cascade
