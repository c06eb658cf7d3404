import DeckPress.Proofs.Cascade.Merge
import DeckPress.Proofs.Entity.Wording

/-!
What the cascade says. It writes no text of its own but the places of shapes without an id, so the
word for null stands in merged and patched shapes only if it stands in what was merged, or if a
null stands in the id of a shape in a list.
-/

namespace DeckPress.Cascade

open Record Text

def givenIds : Json → List Json
  | .arr items => items.filterMap fun item =>
    item.fields?.bind fun record => Json.given? record "id"
  | _ => []

theorem wordless_givenIds {scope : Json} (wordless : scope.Wordless) :
    ∀ id ∈ givenIds scope, id.Wordless := by
  intro id member
  unfold givenIds at member
  split at member
  · rename_i items
    obtain ⟨item, present, found⟩ := List.mem_filterMap.mp member
    obtain ⟨record, whole, given⟩ := Option.bind_eq_some_iff.mp found
    have known := (Json.wordless_arr.mp wordless item present).fields?
    rw [whole] at known
    exact known.given? given
  · cases member

/-- Ids of a kind, and records in which the word does not stand. -/
def Wordless (Named : String → Prop) (shapes : Shapes) : Prop :=
  ∀ entry ∈ shapes, Named entry.1 ∧ entry.2.Wordless

/-! ## Scopes -/

variable {Named : String → Prop}

section Contributions

variable (silent : ∀ s : String, Silent s.toList → Named s)

include silent

theorem named_idAt {record : Record Json} (wordless : record.Wordless)
    (own : ∀ id, Json.given? record "id" = some id → Named id.plainText) (index : Nat) :
    Named (idAt index record) := by
  have place : Named ("shape-" ++ toString index) := by
    apply silent
    rw [String.toList_append]
    exact silent_append_of_not_mem (by decide)
      (silent_of_not_mem (Decimal.not_mem_count (by decide) index))
  unfold idAt
  split
  · exact place
  · rename_i id given
    split
    · exact place
    · exact silent id (Json.wordless_str.mp (wordless.given? given)).kept
  · rename_i id _ given
    exact own id given

theorem wordless_contributedFrom {items : List Json} (wordless : ∀ item ∈ items, item.Wordless)
    (own : ∀ id ∈ givenIds (.arr items), Named id.plainText) (index : Nat) :
    Wordless Named (contributedFrom index items) := by
  -- The place in the list is general, since it goes into the id of a shape that has none.
  induction items generalizing index with
  | nil => exact nofun
  | cons item rest ih =>
    obtain ⟨first, others⟩ := List.forall_mem_cons.mp wordless
    cases item with
    | obj record =>
      have here (id : Json) (given : Json.given? record "id" = some id) : Named id.plainText :=
        own id (List.mem_filterMap.mpr ⟨.obj record, List.mem_cons_self, given⟩)
      have later (id : Json) (member : id ∈ givenIds (.arr rest)) : Named id.plainText := by
        obtain ⟨other, present, given⟩ := List.mem_filterMap.mp member
        exact own id (List.mem_filterMap.mpr ⟨other, List.mem_cons_of_mem _ present, given⟩)
      have known := Json.wordless_obj.mp first
      exact List.forall_mem_cons.mpr
        ⟨⟨named_idAt silent known here index, known⟩, ih others later (index + 1)⟩
    | _ => exact ih others own (index + 1)

theorem wordless_contributedFields {fields : Record Json} (wordless : fields.Wordless) :
    Wordless Named (contributedFields fields) := by
  induction fields with
  | nil => exact nofun
  | cons field rest ih =>
    obtain ⟨id, value⟩ := field
    obtain ⟨⟨known, given⟩, others⟩ := List.forall_mem_cons.mp wordless
    cases value with
    | obj record =>
      exact List.forall_mem_cons.mpr
        ⟨⟨silent id known.kept, Json.wordless_obj.mp given⟩, ih others⟩
    | _ => exact ih others

theorem wordless_contributed {scope : Json} (wordless : scope.Wordless)
    (own : ∀ id ∈ givenIds scope, Named id.plainText) : Wordless Named (contributed scope) := by
  cases scope with
  | obj fields => exact wordless_contributedFields silent (Json.wordless_obj.mp wordless)
  | arr items => exact wordless_contributedFrom silent (Json.wordless_arr.mp wordless) own 0
  | _ => exact nofun

end Contributions

/-! ## Merging and patching -/

section Shapes

variable {shapes : Shapes} (wordless : Wordless Named shapes)

include wordless

theorem Wordless.get? {id : String} {record : Record Json} (found : shapes.get? id = some record) :
    Named id ∧ record.Wordless :=
  wordless (id, record) (mem_of_get? found)

theorem wordless_put {id : String} {record : Record Json} (named : Named id)
    (given : record.Wordless) : Wordless Named (shapes.put id record) := by
  intro entry member
  rcases mem_put member with rfl | before
  · exact ⟨named, given⟩
  · exact wordless entry before

theorem wordless_addRecord {id : String} {record : Record Json} (named : Named id)
    (given : record.Wordless) : Wordless Named (addRecord shapes id record) := by
  refine wordless_put wordless named (Record.Wordless.overlay ?_ given)
  exact getD_of_forall (fun known found => (wordless.get? found).2) nofun

theorem wordless_addAll {entries : List (String × Record Json)} (given : Wordless Named entries) :
    Wordless Named (addAll shapes entries) := by
  induction entries using List.reverseRecOn with
  | nil => exact wordless
  | append_singleton entries entry ih =>
    obtain ⟨others, last⟩ := List.forall_mem_append.mp given
    obtain ⟨named, own⟩ := List.forall_mem_singleton.mp last
    rw [addAll_concat]
    exact wordless_addRecord (ih others) named own

theorem wordless_applyOverride {patch : Json} (given : patch.Wordless) :
    Wordless Named (applyOverride shapes patch) := by
  unfold applyOverride
  split
  · exact wordless
  · rename_i fields whole
    split
    · exact wordless
    · split
      · exact wordless
      · rename_i record found
        obtain ⟨named, known⟩ := wordless.get? found
        have patched : fields.Wordless := by
          have own := given.fields?
          rwa [whole] at own
        exact wordless_put wordless named (known.overlay (patched.erase "shape"))

theorem wordless_applyOverrides {patches : List Json} (given : ∀ patch ∈ patches, patch.Wordless) :
    Wordless Named (applyOverrides shapes patches) := by
  induction patches generalizing shapes with
  | nil => exact wordless
  | cons patch rest ih =>
    obtain ⟨first, others⟩ := List.forall_mem_cons.mp given
    exact ih (wordless_applyOverride wordless first) others

end Shapes

theorem wordless_mergeShapes (silent : ∀ s : String, Silent s.toList → Named s)
    {scopes : List Json} (wordless : ∀ scope ∈ scopes, scope.Wordless)
    (own : ∀ scope ∈ scopes, ∀ id ∈ givenIds scope, Named id.plainText) :
    Wordless Named (mergeShapes scopes) := by
  have none_yet : Wordless Named [] := fun _ member => nomatch member
  rw [mergeShapes_eq]
  refine wordless_addAll none_yet fun entry member => ?_
  obtain ⟨scope, present, inside⟩ := List.mem_flatMap.mp member
  exact wordless_contributed silent (wordless scope present) (own scope present) entry inside

theorem wordless_overlayFields {layers : List Json} (given : ∀ layer ∈ layers, layer.Wordless) :
    (overlayFields layers).Wordless := by
  induction layers using List.reverseRecOn with
  | nil => exact nofun
  | append_singleton layers layer ih =>
    obtain ⟨others, last⟩ := List.forall_mem_append.mp given
    have step : overlayFields (layers ++ [layer]) =
        (overlayFields layers).overlay (layer.fields?.getD []) := List.foldl_append
    rw [step]
    exact (ih others).overlay (List.forall_mem_singleton.mp last).fields?

end DeckPress.Cascade
