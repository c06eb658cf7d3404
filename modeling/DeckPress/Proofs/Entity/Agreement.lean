import DeckPress.Proofs.Entity.Matching

/-!
Records that agree under the names that count. Which other names there are, and in which order all
of them stand, is of no consequence for what is read of a record. What stands under a name that
counts may be exchanged, and reading goes on inside of it.
-/

namespace DeckPress

open Record

/-- Under every name that counts stands nothing in both records, or values that were exchanged. -/
def Record.Agrees (P : Exchange) (counts : String → Prop) (r s : Record Json) : Prop :=
  ∀ name, counts name → Option.Rel (P name) (r.get? name) (s.get? name)

def Field.spelled (fields : List Field) : List String :=
  fields.flatMap (·.spellings)

namespace Record.Agrees

variable {P : Exchange} {counts : String → Prop} {r s : Record Json}

theorem rfl_of (same : ∀ name value, P name value value) (r : Record Json) :
    Agrees P counts r r := by
  intro name _
  cases r.get? name with
  | none => exact .none
  | some value => exact .some (same name value)

theorem pick? {spellings : List String} (agrees : Agrees P counts r s)
    (counted : ∀ name ∈ spellings, counts name) :
    Option.Rel (fun p q => p.1 = q.1 ∧ p.1 ∈ spellings ∧ P p.1 p.2 q.2)
      (r.pick? spellings) (s.pick? spellings) := by
  induction spellings with
  | nil => exact .none
  | cons name others ih =>
    rw [List.forall_mem_cons] at counted
    have here := agrees name counted.1
    unfold Record.pick? at ih ⊢
    rw [List.findSome?_cons, List.findSome?_cons]
    generalize r.get? name = left at here ⊢
    generalize s.get? name = right at here ⊢
    cases here with
    | some exchanged => exact .some ⟨rfl, List.mem_cons_self, exchanged⟩
    | none =>
      refine related_imp ?_ (ih counted.2)
      rintro p q ⟨same, member, exchanged⟩
      exact ⟨same, List.mem_cons_of_mem _ member, exchanged⟩

theorem value? {α : Type} {R : α → α → Prop} {reader : Reader α} {name : String}
    (agrees : Agrees P counts r s) (counted : counts name)
    (reads : ∀ v w, P name v w → Option.Rel R (reader v).toOption (reader w).toOption) :
    Option.Rel R (r.value? reader [name]) (s.value? reader [name]) := by
  rw [value?_singleton, value?_singleton]
  exact related_bind reads (agrees name counted)

theorem broken (agrees : Agrees P counts r s)
    (half : ∀ name, Text.hasHalf name = true → counts name) :
    r.keys.any Text.hasHalf = s.keys.any Text.hasHalf := by
  have member (name : String) (broken : Text.hasHalf name = true) :
      name ∈ r.keys ↔ name ∈ s.keys := by
    have here := agrees name (half name broken)
    rw [mem_keys_iff, mem_keys_iff]
    generalize r.get? name = left at here ⊢
    generalize s.get? name = right at here ⊢
    cases here <;> rfl
  rw [Bool.eq_iff_iff, List.any_eq_true, List.any_eq_true]
  constructor
  · rintro ⟨name, present, broken⟩
    exact ⟨name, (member name broken).mp present, broken⟩
  · rintro ⟨name, present, broken⟩
    exact ⟨name, (member name broken).mpr present, broken⟩

theorem faultsOf {fields : List Field} (agrees : Agrees P counts r s)
    (counted : ∀ name ∈ Field.spelled fields, counts name)
    (harmless : ∀ field ∈ fields, ∀ name ∈ field.spellings, ∀ v w, P name v w →
      field.faults v = field.faults w) : Field.faultsOf fields r = Field.faultsOf fields s := by
  refine List.filterMap_congr fun field member => ?_
  have here := agrees.pick? fun name spelled =>
    counted name (List.mem_flatMap.mpr ⟨field, member, spelled⟩)
  unfold Field.fault?
  generalize r.pick? field.spellings = left at here ⊢
  generalize s.pick? field.spellings = right at here ⊢
  cases here with
  | none => rfl
  | @some p q both =>
    obtain ⟨same, spelled, exchanged⟩ := both
    obtain ⟨name, v⟩ := p
    obtain ⟨other, w⟩ := q
    cases same
    dsimp only
    rw [harmless field member name spelled v w exchanged]

theorem readEntity {α : Type} {fields : List Field} (make : Record Json → α)
    (agrees : Agrees P counts r.withoutNulls s.withoutNulls)
    (half : ∀ name, Text.hasHalf name = true → counts name)
    (counted : ∀ name ∈ Field.spelled fields, counts name)
    (harmless : ∀ field ∈ fields, ∀ name ∈ field.spellings, ∀ v w, P name v w →
      field.faults v = field.faults w) :
    (∃ refusal, DeckPress.readEntity fields make (.obj r) = .error refusal ∧
      DeckPress.readEntity fields make (.obj s) = .error refusal) ∨
    (DeckPress.readEntity fields make (.obj r) = .ok (make r.withoutNulls) ∧
      DeckPress.readEntity fields make (.obj s) = .ok (make s.withoutNulls)) := by
  unfold DeckPress.readEntity
  dsimp only
  rw [agrees.broken half]
  split
  · exact Or.inl ⟨_, rfl, rfl⟩
  · unfold Field.build
    rw [agrees.faultsOf counted harmless]
    split
    · exact Or.inr ⟨rfl, rfl⟩
    · exact Or.inl ⟨_, rfl, rfl⟩

end Record.Agrees

/-! ## The same first and last values -/

/-- The same values, first and last, under the names that count. -/
structure Record.SameOn {α : Type} (counts : String → Prop) (r s : Record α) : Prop where
  first : ∀ name, counts name → r.get? name = s.get? name
  last : ∀ name, counts name → last? r name = last? s name

namespace Record

variable {α : Type} {counts : String → Prop}

theorem SameOn.refl (r : Record α) : SameOn counts r r :=
  ⟨fun _ _ => rfl, fun _ _ => rfl⟩

theorem sameOn_of_distinct {r s : Record α} (hr : r.Distinct) (hs : s.Distinct)
    (first : ∀ name, counts name → r.get? name = s.get? name) : SameOn counts r s := by
  refine ⟨first, fun name counted => ?_⟩
  rw [last?_of_distinct hr, last?_of_distinct hs, first name counted]

end Record

end DeckPress
