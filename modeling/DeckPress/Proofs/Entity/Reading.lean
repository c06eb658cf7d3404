import DeckPress.Entity.Field
import DeckPress.Proofs.Record.Overlay
import DeckPress.Proofs.Trace

/-!
What it takes to read an entity. Nulls count as absent, so a field is looked for among the values
that are given; and an entity is read exactly when no field that is given is at fault.
-/

namespace DeckPress

open Record

/-- A reader that refuses a value finds at least one fault in it. -/
def Reader.Counts {α : Type} (reader : Reader α) : Prop :=
  ∀ j, reader j ≠ .error 0

theorem Reader.counts_text : Reader.Counts Reader.text := by
  intro j
  cases j <;> simp [Reader.text]

theorem Reader.counts_amount : Reader.Counts Reader.amount := by
  intro j
  cases j <;> simp [Reader.amount]

theorem Reader.Counts.ok_of_faults {α : Type} {reader : Reader α} (counts : reader.Counts)
    {j : Json} (clean : reader.faults j = 0) : ∃ a, reader j = .ok a := by
  cases outcome : reader j with
  | ok a => exact ⟨a, rfl⟩
  | error n =>
    have none_found : n = 0 := by simpa [Reader.faults, outcome] using clean
    exact absurd (none_found ▸ outcome) (counts j)

theorem Json.given?_eq (r : Record Json) (name : String) :
    Json.given? r name = (r.get? name).filter fun value => !value.isNull := by
  unfold Json.given?
  cases r.get? name with
  | none => rfl
  | some value => cases value <;> rfl

theorem Record.get?_withoutNulls {r : Record Json} (distinct : r.Distinct) (name : String) :
    r.withoutNulls.get? name = Json.given? r name := by
  rw [Json.given?_eq]
  induction r with
  | nil => rfl
  | cons field rest ih =>
    have fresh := distinct_cons distinct
    have below := ih fresh.2
    by_cases null : field.2.isNull = true
    · have dropped : withoutNulls (field :: rest) = withoutNulls rest := by
        simp [withoutNulls, null]
      rw [dropped, below]
      by_cases here : field.1 = name
      · subst here
        simp [get?, fresh.1, Option.filter_some, null]
      · simp [get?, here]
    · have kept : withoutNulls (field :: rest) = field :: withoutNulls rest := by
        simp [withoutNulls, null]
      rw [kept]
      by_cases here : field.1 = name
      · simp [get?, here, Option.filter_some, null]
      · simpa [get?, here] using below

theorem Record.pick?_singleton (r : Record Json) (name : String) :
    r.pick? [name] = (r.get? name).map fun value => (name, value) := by
  cases found : r.get? name <;> simp [pick?, found]

theorem Record.value?_singleton {α : Type} (r : Record Json) (reader : Reader α) (name : String) :
    r.value? reader [name] = (r.get? name).bind fun value => (reader value).toOption := by
  rw [value?, pick?_singleton]
  cases r.get? name <;> rfl

/-- An entity that is read is built from the values given, and no field is at fault in them. -/
theorem readEntity_ok {α : Type} {fields : List Field} {make : Record Json → α}
    {entries : Record Json} {a : α} (read : readEntity fields make (.obj entries) = .ok a) :
    Field.faultsOf fields entries.withoutNulls = [] ∧ a = make entries.withoutNulls := by
  unfold readEntity at read
  simp only at read
  split at read
  · cases read
  · unfold Field.build at read
    split at read
    · rename_i clean
      exact ⟨clean, (Except.ok.inj read).symm⟩
    · cases read

theorem Field.faults_of_clean {field : Field} {r : Record Json} (clean : field.fault? r = none)
    {name : String} {value : Json} (found : r.pick? field.spellings = some (name, value)) :
    field.faults value = 0 := by
  unfold Field.fault? at clean
  rw [found] at clean
  by_cases none_found : field.faults value = 0
  · exact none_found
  · simp [none_found] at clean

theorem Field.value_of_clean {α : Type} {fields : List Field} {r : Record Json}
    (clean : Field.faultsOf fields r = []) {spellings : List String} {reader : Reader α}
    (counts : reader.Counts) (declared : Field.may spellings reader ∈ fields)
    {name : String} {value : Json} (found : r.pick? spellings = some (name, value)) :
    ∃ a, reader value = .ok a := by
  have own : (Field.may spellings reader).fault? r = none :=
    List.filterMap_eq_nil_iff.mp clean _ declared
  exact counts.ok_of_faults (faults_of_clean own found)

/-! ## Nulls -/

section Nullable

variable {α : Type} {r : Record Json} {reader : Reader α} {name : String}

theorem Reader.optional_of_ne (reader : Reader α) {value : Json} (filled : value ≠ .null) :
    Reader.optional reader value = (reader value).map some := by
  cases value with
  | null => exact absurd rfl filled
  | _ => rfl

theorem Reader.optional_get? (reader : Reader α) (r : Record Json) (name : String) :
    Reader.optional reader ((r.get? name).getD .null) =
      (Json.given? r name).elim (.ok none) fun value => (reader value).map some := by
  rw [Json.given?_eq]
  cases r.get? name with
  | none => rfl
  | some value => cases value <;> rfl

theorem Record.value?_withoutNulls (distinct : r.Distinct) {a : Option α}
    (read : Reader.optional reader ((r.get? name).getD .null) = .ok a) :
    r.withoutNulls.value? reader [name] = a := by
  rw [Reader.optional_get?] at read
  rw [value?_singleton, get?_withoutNulls distinct]
  generalize Json.given? r name = given at read ⊢
  cases given with
  | none =>
    cases read
    rfl
  | some value =>
    obtain ⟨b, own, rfl⟩ := map_eq_ok.mp read
    rw [Option.bind_some, own]
    rfl

theorem Field.fault?_withoutNulls (counts : reader.Counts) (distinct : r.Distinct) :
    (Field.may [name] reader).fault? r.withoutNulls = none ↔
      Returns (Reader.optional reader ((r.get? name).getD .null)) := by
  have own : (Field.may [name] reader).spellings = [name] := rfl
  unfold Field.fault?
  rw [Reader.optional_get?, own, pick?_singleton, get?_withoutNulls distinct]
  cases Json.given? r name with
  | none => exact iff_of_true rfl (returns_ok none)
  | some value =>
    have faults : (Field.may [name] reader).faults value = reader.faults value := rfl
    simp only [Option.map_some, Option.elim_some, faults]
    cases outcome : reader value with
    | ok a => exact iff_of_true (by simp [Reader.faults, outcome]) (returns_ok _)
    | error n =>
      have some_found : n ≠ 0 := fun none_found => counts value (none_found ▸ outcome)
      exact iff_of_false (by simp [Reader.faults, outcome, some_found]) (not_returns_error n)

end Nullable

/-! ## Flags -/

theorem Reader.flag_int (n : Int) : Reader.flag (.int n) =
    if n = 0 then .ok false else if n = 1 then .ok true else .error 1 := by
  unfold Reader.flag
  split <;> simp_all

theorem Reader.flag_float (x : Float) : Reader.flag (.float x) =
    if x == 0.0 then .ok false else if x == 1.0 then .ok true else .error 1 := rfl

theorem Reader.flag_str (s : String) : Reader.flag (.str s) =
    (Reader.flagWord? s).elim (.error 1) .ok := by
  cases word : Reader.flagWord? s <;> simp [flag, word]

theorem Reader.truthy_of_flag {value : Json} {on : Bool} (read : Reader.flag value = .ok on) :
    value.truthy = true ↔
      on = true ∨ ∃ word, value = .str word ∧ Reader.flagWord? word = some false := by
  cases value with
  | bool b =>
    cases read
    simp [Json.truthy]
  | int n =>
    rw [flag_int] at read
    split at read
    · cases read
      simp_all [Json.truthy]
    · split at read <;> cases read
      simp_all [Json.truthy]
  | float x =>
    rw [Reader.flag_float] at read
    split at read
    · cases read
      simp_all [Json.truthy, bne]
    · split at read <;> cases read
      simp_all [Json.truthy, bne]
  | str s =>
    rw [Reader.flag_str] at read
    cases word : Reader.flagWord? s with
    | none =>
      rw [word] at read
      cases read
    | some b =>
      rw [word] at read
      cases read
      have filled : s ≠ "" := by
        rintro rfl
        exact absurd word (by decide +revert)
      cases on <;> simp [Json.truthy, filled, word]
  | _ => cases read

theorem Reader.counts_flag : Reader.Counts Reader.flag := by
  intro j
  cases j with
  | int n =>
    rw [flag_int]
    split_ifs <;> simp
  | float x =>
    rw [flag_float]
    split_ifs <;> simp
  | str s =>
    rw [flag_str]
    cases flagWord? s <;> simp
  | _ => simp [flag]

end DeckPress
