import Mathlib.Data.List.Induction
import DeckPress.Record

/-!
The law of layers. A record with a layer over it has the names of both in order of first
appearance, and under each name the value that was written last. So a layer may be gathered into a
record of its own first without changing what it does to the record below.
-/

namespace DeckPress.Record

variable {α : Type}

/-- The value written last under a name. -/
def last? (entries : List (String × α)) (name : String) : Option α :=
  get? entries.reverse name

/-! ## Names in order of first appearance -/

theorem eraseDups_concat (xs : List String) (x : String) :
    (xs ++ [x]).eraseDups = if x ∈ xs then xs.eraseDups else xs.eraseDups ++ [x] := by
  rw [List.eraseDups_append, List.cons_removeAll]
  by_cases known : x ∈ xs
  · simp [known]
  · simp [known, List.eraseDups_cons]

theorem eraseDups_of_nodup {xs : List String} (distinct : xs.Nodup) : xs.eraseDups = xs := by
  induction xs with
  | nil => rfl
  | cons x xs ih =>
    have fresh := List.nodup_cons.mp distinct
    have kept : (xs.filter fun y => !y == x) = xs := by
      rw [List.filter_eq_self]
      intro y member
      have other : y ≠ x := fun same => fresh.1 (same ▸ member)
      simp [other]
    rw [List.eraseDups_cons, kept, ih fresh.2]

theorem nodup_eraseDups (xs : List String) : xs.eraseDups.Nodup := by
  induction xs using List.reverseRecOn with
  | nil => exact List.nodup_nil
  | append_singleton xs x ih =>
    rw [eraseDups_concat]
    by_cases known : x ∈ xs
    · rwa [if_pos known]
    · rw [if_neg known, List.nodup_append]
      refine ⟨ih, List.pairwise_singleton _ x, ?_⟩
      intro y kept z last same
      rw [same, List.mem_singleton.mp last] at kept
      exact known (List.mem_eraseDups.mp kept)

/-- A name counts where it appears first, so a later part may lose its repetitions beforehand. -/
theorem eraseDups_append_eraseDups (xs ys : List String) :
    (xs ++ ys.eraseDups).eraseDups = (xs ++ ys).eraseDups := by
  induction ys using List.reverseRecOn with
  | nil => rfl
  | append_singleton ys y ih =>
    rw [eraseDups_concat]
    by_cases known : y ∈ ys
    · rw [if_pos known, ih, ← List.append_assoc, eraseDups_concat,
        if_pos (List.mem_append_right xs known)]
    · have same : y ∈ xs ++ ys.eraseDups ↔ y ∈ xs ++ ys := by
        simp only [List.mem_append, List.mem_eraseDups]
      rw [if_neg known, ← List.append_assoc, ← List.append_assoc, eraseDups_concat,
        eraseDups_concat, ih]
      simp only [same]

/-! ## Looking up -/

theorem get?_append (xs ys : Record α) (name : String) :
    get? (xs ++ ys) name = (get? xs name).or (get? ys name) := by
  induction xs with
  | nil => rfl
  | cons field rest ih =>
    by_cases here : field.1 = name
    · simp [get?, here]
    · simp [get?, here, ih]

theorem mem_keys_iff {r : Record α} {name : String} :
    name ∈ r.keys ↔ (r.get? name).isSome = true := by
  induction r with
  | nil => simp [keys]
  | cons field rest ih =>
    by_cases here : field.1 = name
    · simp [keys, get?, here]
    · have apart : name ≠ field.1 := fun same => here same.symm
      simpa [keys, get?, here, apart] using ih

theorem distinct_cons {field : String × α} {rest : Record α} (distinct : Distinct (field :: rest)) :
    get? rest field.1 = none ∧ Distinct rest := by
  have parts := List.nodup_cons.mp distinct
  refine ⟨?_, parts.2⟩
  apply Option.not_isSome_iff_eq_none.mp
  intro found
  exact parts.1 (mem_keys_iff.mpr found)

theorem last?_append (xs ys : List (String × α)) (name : String) :
    last? (xs ++ ys) name = (last? ys name).or (last? xs name) := by
  rw [last?, List.reverse_append, get?_append]
  rfl

theorem last?_concat (entries : List (String × α)) (key : String) (value : α) (name : String) :
    last? (entries ++ [(key, value)]) name =
      if key = name then some value else last? entries name := by
  simp [last?, get?]

theorem last?_of_distinct {r : Record α} (distinct : r.Distinct) (name : String) :
    last? r name = r.get? name := by
  induction r with
  | nil => rfl
  | cons field rest ih =>
    have fresh := distinct_cons distinct
    have split := last?_append [field] rest name
    rw [List.singleton_append] at split
    rw [split, ih fresh.2]
    by_cases here : field.1 = name
    · subst here
      simp [last?, get?, fresh.1]
    · simp [last?, get?, here]

theorem distinct_of_concat {r : Record α} {name : String} {value : α}
    (distinct : Distinct (r ++ [(name, value)])) : get? r name = none ∧ Distinct r := by
  have names : keys (r ++ [(name, value)]) = keys r ++ [name] := by simp [keys]
  rw [Distinct, names] at distinct
  obtain ⟨own, -, apart⟩ := List.nodup_append.mp distinct
  refine ⟨Option.not_isSome_iff_eq_none.mp fun found => ?_, own⟩
  exact apart name (mem_keys_iff.mpr found) name List.mem_cons_self rfl

theorem get?_eq_some_iff {r : Record α} (distinct : r.Distinct) {name : String} {value : α} :
    r.get? name = some value ↔ (name, value) ∈ r := by
  induction r with
  | nil => simp
  | cons field rest ih =>
    have fresh := distinct_cons distinct
    have apart : (name, value) ∈ rest → field.1 ≠ name := by
      intro member same
      have found := (ih fresh.2).mpr member
      rw [← same, fresh.1] at found
      cases found
    rw [List.mem_cons, ← ih fresh.2, get?]
    by_cases here : field.1 = name
    · rw [if_pos here]
      constructor
      · intro found
        exact Or.inl (Prod.ext here.symm (Option.some.inj found).symm)
      · rintro (same | later)
        · exact congrArg (fun entry => some entry.2) same.symm
        · exact absurd here (apart ((ih fresh.2).mp later))
    · rw [if_neg here]
      constructor
      · exact Or.inr
      · rintro (same | later)
        · exact absurd (congrArg Prod.fst same).symm here
        · exact later

theorem mem_of_get? {r : Record α} {name : String} {value : α}
    (found : r.get? name = some value) : (name, value) ∈ r := by
  induction r with
  | nil => cases found
  | cons field rest ih =>
    unfold get? at found
    split at found
    · rename_i here
      cases found
      exact here ▸ List.mem_cons_self
    · exact List.mem_cons_of_mem field (ih found)

theorem get?_perm {r s : Record α} (distinct : r.Distinct) (moved : r.Perm s) (name : String) :
    r.get? name = s.get? name := by
  have names : r.keys.Perm s.keys := moved.map Prod.fst
  have other : s.Distinct := names.nodup_iff.mp distinct
  refine Option.ext fun value => ?_
  rw [get?_eq_some_iff distinct, get?_eq_some_iff other, moved.mem_iff]

theorem ext_of_distinct {r s : Record α} (hr : r.Distinct) (hs : s.Distinct)
    (names : r.keys = s.keys) (values : ∀ name, r.get? name = s.get? name) : r = s := by
  induction r generalizing s with
  | nil =>
    cases s with
    | nil => rfl
    | cons field rest => cases names
  | cons field rest ih =>
    cases s with
    | nil => cases names
    | cons other tail =>
      obtain ⟨same, below⟩ : field.1 = other.1 ∧ keys rest = keys tail := List.cons.inj names
      have freshR := distinct_cons hr
      have freshS := distinct_cons hs
      have heads : field.2 = other.2 := by
        simpa [get?, same] using values field.1
      have tails : rest = tail := by
        apply ih freshR.2 freshS.2 below
        intro name
        by_cases here : field.1 = name
        · subst here
          rw [freshR.1, same, freshS.1]
        · have there : ¬ other.1 = name := fun found => here (same.trans found)
          simpa [get?, here, there] using values name
      rw [tails, Prod.ext same heads]

/-! ## Layers -/

theorem mem_put {r : Record α} {key : String} {value : α} {field : String × α}
    (member : field ∈ r.put key value) : field = (key, value) ∨ field ∈ r := by
  induction r with
  | nil => exact Or.inl (List.mem_singleton.mp member)
  | cons first rest ih =>
    unfold put at member
    split at member
    · rename_i here
      rcases List.mem_cons.mp member with same | later
      · exact Or.inl (here ▸ same)
      · exact Or.inr (List.mem_cons_of_mem first later)
    · rcases List.mem_cons.mp member with same | later
      · exact Or.inr (same ▸ List.mem_cons_self)
      · exact (ih later).imp_right (List.mem_cons_of_mem first)

@[simp] theorem overlay_nil (r : Record α) : r.overlay [] = r := rfl

theorem overlay_append (r xs ys : Record α) : r.overlay (xs ++ ys) = (r.overlay xs).overlay ys :=
  List.foldl_append

theorem overlay_concat (r layer : Record α) (key : String) (value : α) :
    r.overlay (layer ++ [(key, value)]) = (r.overlay layer).put key value :=
  overlay_append r layer [(key, value)]

theorem mem_overlay {r layer : Record α} {field : String × α} (member : field ∈ r.overlay layer) :
    field ∈ r ∨ field ∈ layer := by
  induction layer using List.reverseRecOn with
  | nil => exact Or.inl member
  | append_singleton layer last ih =>
    rw [overlay_concat] at member
    rw [List.mem_append, List.mem_singleton]
    rcases mem_put member with same | before
    · exact Or.inr (Or.inr same)
    · exact (ih before).imp_right Or.inl

theorem distinct_nil : Distinct ([] : Record α) := List.nodup_nil

theorem distinct_put {r : Record α} (distinct : r.Distinct) (key : String) (value : α) :
    (r.put key value).Distinct := by
  rw [Distinct, keys_put]
  split
  · exact distinct
  · rename_i fresh
    refine List.nodup_append.mpr ⟨distinct, by simp, ?_⟩
    intro x hx y hy same
    have last : y = key := List.mem_singleton.mp hy
    exact fresh (last ▸ same ▸ hx)

theorem distinct_overlay {r : Record α} (distinct : r.Distinct) (layer : Record α) :
    (r.overlay layer).Distinct := by
  induction layer using List.reverseRecOn with
  | nil => exact distinct
  | append_singleton layer field ih =>
    rw [overlay_concat]
    exact distinct_put ih field.1 field.2

theorem distinct_ofEntries (entries : List (String × α)) : (ofEntries entries).Distinct :=
  distinct_overlay distinct_nil entries

theorem keys_overlay {r : Record α} (distinct : r.Distinct) (layer : Record α) :
    (r.overlay layer).keys = (r.keys ++ layer.keys).eraseDups := by
  induction layer using List.reverseRecOn with
  | nil =>
    have same : r.keys ++ keys ([] : Record α) = r.keys := List.append_nil r.keys
    rw [overlay_nil, same, eraseDups_of_nodup distinct]
  | append_singleton layer field ih =>
    have names : r.keys ++ keys (layer ++ [field]) = r.keys ++ keys layer ++ [field.1] := by
      simp [keys]
    rw [overlay_concat, keys_put, ih, names, eraseDups_concat]
    simp only [List.mem_eraseDups]

/-- What was written last stands, in the layer if anything was. -/
theorem get?_overlay (r layer : Record α) (name : String) :
    (r.overlay layer).get? name = (last? layer name).or (r.get? name) := by
  induction layer using List.reverseRecOn with
  | nil => rfl
  | append_singleton layer field ih =>
    rw [overlay_concat, last?_concat]
    by_cases here : field.1 = name
    · simp [here]
    · rw [get?_put_of_ne _ _ here, ih, if_neg here]

theorem keys_ofEntries (entries : List (String × α)) :
    (ofEntries entries).keys = (keys entries).eraseDups :=
  keys_overlay distinct_nil entries

theorem get?_ofEntries (entries : List (String × α)) (name : String) :
    (ofEntries entries).get? name = last? entries name := by
  rw [ofEntries, get?_overlay, get?_nil, Option.or_none]

theorem last?_ofEntries (entries : List (String × α)) (name : String) :
    last? (ofEntries entries) name = last? entries name := by
  rw [last?_of_distinct (distinct_ofEntries entries), get?_ofEntries]

theorem ofEntries_of_distinct {r : Record α} (distinct : r.Distinct) : ofEntries r = r := by
  apply ext_of_distinct (distinct_ofEntries r) distinct
  · rw [keys_ofEntries, eraseDups_of_nodup distinct]
  · intro name
    rw [get?_ofEntries, last?_of_distinct distinct]

/-- A layer that is gathered into a record first does the same to the record below. -/
theorem overlay_ofEntries {r : Record α} (distinct : r.Distinct) (entries : List (String × α)) :
    r.overlay (ofEntries entries) = r.overlay entries := by
  apply ext_of_distinct (distinct_overlay distinct _) (distinct_overlay distinct _)
  · rw [keys_overlay distinct, keys_overlay distinct, keys_ofEntries, eraseDups_append_eraseDups]
  · intro name
    rw [get?_overlay, get?_overlay, last?_ofEntries]

end DeckPress.Record
