import Mathlib.Data.List.Forall2
import DeckPress.Proofs.Entity.Reading

/-!
Records in which values were exchanged in place. When the exchanges are harmless to the fields of
an entity, neither record is read, or both are; and a field whose reader does not tell the values
apart has one value in both. Exchanges may go on inside the values.
-/

namespace DeckPress

open Record

section Related

variable {α β γ δ : Type} {R : α → β → Prop}

theorem related_imp {S : α → β → Prop} (weaker : ∀ a b, R a b → S a b) {x : Option α}
    {y : Option β} (related : Option.Rel R x y) : Option.Rel S x y := by
  cases related with
  | none => exact .none
  | some first => exact .some (weaker _ _ first)

theorem related_bind {S : γ → δ → Prop} {f : α → Option γ} {g : β → Option δ}
    (step : ∀ a b, R a b → Option.Rel S (f a) (g b)) {x : Option α} {y : Option β}
    (related : Option.Rel R x y) : Option.Rel S (x.bind f) (y.bind g) := by
  cases related with
  | none => exact .none
  | some first => exact step _ _ first

theorem related_getD {x : Option α} {y : Option β} (related : Option.Rel R x y) {a : α} {b : β}
    (default : R a b) : R (x.getD a) (y.getD b) := by
  cases related with
  | none => exact default
  | some first => exact first

end Related

/-- What an exchange may do to the value under a name. -/
abbrev Exchange := String → Json → Json → Prop

/-- The same names in the same order, with values exchanged under them. -/
def Record.Matches (P : Exchange) (r s : Record Json) : Prop :=
  List.Forall₂ (fun a b => a.1 = b.1 ∧ P a.1 a.2 b.2) r s

namespace Record.Matches

variable {P : Exchange} {r s : Record Json}

theorem rfl_of (same : ∀ name value, P name value value) (r : Record Json) : Matches P r r :=
  List.forall₂_same.mpr fun entry _ => ⟨rfl, same entry.1 entry.2⟩

theorem of_map {f : String → Json → Json} (exchanged : ∀ name value, P name value (f name value))
    (r : Record Json) : Matches P r (r.map fun entry => (entry.1, f entry.1 entry.2)) := by
  induction r with
  | nil => exact .nil
  | cons entry rest ih => exact .cons ⟨rfl, exchanged entry.1 entry.2⟩ ih

theorem keys_eq (matching : Matches P r s) : r.keys = s.keys := by
  induction matching with
  | nil => rfl
  | cons first _ ih => exact congrArg₂ List.cons first.1 ih

theorem get? (matching : Matches P r s) (name : String) :
    r.get? name = none ∧ s.get? name = none ∨
      ∃ v w, r.get? name = some v ∧ s.get? name = some w ∧ P name v w := by
  induction matching with
  | nil => exact Or.inl ⟨rfl, rfl⟩
  | @cons a b _ _ first _ ih =>
    by_cases here : a.1 = name
    · have there : b.1 = name := first.1 ▸ here
      simp only [Record.get?, here, there, if_true]
      exact Or.inr ⟨a.2, b.2, rfl, rfl, here ▸ first.2⟩
    · have there : ¬ b.1 = name := first.1 ▸ here
      simpa only [Record.get?, here, there, if_false] using ih

theorem pick? (matching : Matches P r s) (spellings : List String) :
    r.pick? spellings = none ∧ s.pick? spellings = none ∨
      ∃ name ∈ spellings, ∃ v w, r.pick? spellings = some (name, v) ∧
        s.pick? spellings = some (name, w) ∧ P name v w := by
  induction spellings with
  | nil => exact Or.inl ⟨rfl, rfl⟩
  | cons name others ih =>
    unfold Record.pick? at ih ⊢
    rcases matching.get? name with ⟨none_left, none_right⟩ | ⟨v, w, left, right, exchanged⟩
    · rw [List.findSome?_cons, List.findSome?_cons, none_left, none_right]
      rcases ih with absent | ⟨other, member, found⟩
      · exact Or.inl absent
      · exact Or.inr ⟨other, List.mem_cons_of_mem _ member, found⟩
    · rw [List.findSome?_cons, List.findSome?_cons, left, right]
      exact Or.inr ⟨name, List.mem_cons_self, v, w, rfl, rfl, exchanged⟩

/-- A reader that does not tell the values apart has the same result for both records. -/
theorem value? {α : Type} {reader : Reader α} {name : String} (matching : Matches P r s)
    (same : ∀ v w, P name v w → reader v = reader w) :
    r.value? reader [name] = s.value? reader [name] := by
  rw [value?_singleton, value?_singleton]
  rcases matching.get? name with ⟨left, right⟩ | ⟨v, w, left, right, exchanged⟩
  · rw [left, right]
  · rw [left, right, Option.bind_some, Option.bind_some, same v w exchanged]

end Record.Matches

/-- An exchange that no field of an entity takes for a fault, and that leaves nulls alone. -/
structure Exchange.Harmless (P : Exchange) (fields : List Field) : Prop where
  null : ∀ name v w, P name v w → v.isNull = w.isNull
  faults : ∀ field ∈ fields, ∀ name ∈ field.spellings, ∀ v w, P name v w →
    field.faults v = field.faults w

namespace Record.Matches

variable {P : Exchange} {fields : List Field} {r s : Record Json}

theorem withoutNulls (harmless : P.Harmless fields) (matching : Matches P r s) :
    Matches P r.withoutNulls s.withoutNulls := by
  induction matching with
  | nil => exact .nil
  | @cons a b _ _ first _ ih =>
    have same := harmless.null a.1 a.2 b.2 first.2
    cases null : b.2.isNull with
    | true => simpa [Record.withoutNulls, same, null] using ih
    | false =>
      have kept : Matches P (a :: Record.withoutNulls _) (b :: Record.withoutNulls _) :=
        .cons first ih
      simpa [Record.withoutNulls, same, null] using kept

theorem faultsOf (harmless : P.Harmless fields) (matching : Matches P r s) :
    Field.faultsOf fields r = Field.faultsOf fields s := by
  refine List.filterMap_congr fun field member => ?_
  unfold Field.fault?
  rcases matching.pick? field.spellings with
    ⟨left, right⟩ | ⟨name, spelled, v, w, left, right, exchanged⟩
  · rw [left, right]
  · rw [left, right]
    dsimp only
    rw [harmless.faults field member name spelled v w exchanged]

theorem readEntity {α : Type} (harmless : P.Harmless fields) (make : Record Json → α)
    (matching : Matches P r s) :
    (∃ refusal, DeckPress.readEntity fields make (.obj r) = .error refusal ∧
      DeckPress.readEntity fields make (.obj s) = .error refusal) ∨
    (DeckPress.readEntity fields make (.obj r) = .ok (make r.withoutNulls) ∧
      DeckPress.readEntity fields make (.obj s) = .ok (make s.withoutNulls)) := by
  have given := matching.withoutNulls harmless
  unfold DeckPress.readEntity
  dsimp only
  rw [given.keys_eq]
  split
  · exact Or.inl ⟨_, rfl, rfl⟩
  · unfold Field.build
    rw [given.faultsOf harmless]
    split
    · exact Or.inr ⟨rfl, rfl⟩
    · exact Or.inl ⟨_, rfl, rfl⟩

end Record.Matches

/-- A record in which values were exchanged, or a value that is none. -/
inductive Exchanged (P : Exchange) : Json → Json → Prop where
  | other {value : Json} (none : value.fields? = none) : Exchanged P value value
  | fields {r s : Record Json} (matching : Matches P r s) : Exchanged P (.obj r) (.obj s)

namespace Exchanged

variable {P : Exchange} {v w : Json}

theorem rfl_of (same : ∀ name value, P name value value) (value : Json) :
    Exchanged P value value := by
  cases value with
  | obj r => exact .fields (Matches.rfl_of same r)
  | _ => exact .other rfl

theorem read {α : Type} {fields : List Field} (make : Record Json → α)
    (harmless : P.Harmless fields) (exchanged : Exchanged P v w) :
    Option.Rel (fun a b => ∃ r s, Matches P r s ∧ a = make r ∧ b = make s)
      (readEntity fields make v).toOption (readEntity fields make w).toOption := by
  cases exchanged with
  | other none =>
    cases v with
    | obj r => cases none
    | _ => exact .none
  | fields matching =>
    rcases matching.readEntity harmless make with ⟨refusal, left, right⟩ | ⟨left, right⟩
    · rw [left, right]
      exact .none
    · rw [left, right]
      exact .some ⟨_, _, matching.withoutNulls harmless, rfl, rfl⟩

end Exchanged

end DeckPress
