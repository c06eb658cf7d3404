import Mathlib.Data.List.Nodup
import DeckPress.Entity.Deck
import DeckPress.Proofs.Entity.Reading

/-!
Decks that are read leniently. The fields at fault are dropped and the rest is read again, which
comes to reading every field by itself: the second reading has no faults left, and a field has the
value that its own reader gives it, whatever the others hold. A deck is refused for slides that
are no list, and for a name that holds half a pair.
-/

namespace DeckPress

open Record

theorem Record.get?_filter_keys {α : Type} (r : Record α) (keep : String → Bool) (name : String) :
    get? (r.filter fun entry => keep entry.1) name = if keep name then get? r name else none := by
  induction r with
  | nil => simp
  | cons field rest ih =>
    by_cases here : field.1 = name
    · subst here
      by_cases kept : keep field.1 = true
      · simp [get?, kept]
      · simpa [kept] using ih
    · by_cases kept : keep field.1 = true
      · simpa [get?, kept, here] using ih
      · simpa [get?, kept, here] using ih

def Record.dropping (names : List String) (r : Record Json) : Record Json :=
  r.filter fun entry => !names.contains entry.1

theorem Record.get?_dropping (names : List String) (r : Record Json) (name : String) :
    get? (dropping names r) name = if name ∈ names then none else get? r name := by
  rw [dropping, get?_filter_keys r fun name => !names.contains name]
  by_cases dropped : name ∈ names <;> simp [dropped]

theorem Record.withoutNulls_dropping (names : List String) (r : Record Json) :
    withoutNulls (dropping names r) = dropping names (withoutNulls r) := by
  simp only [dropping, withoutNulls, List.filter_filter, Bool.and_comm]

theorem Record.whole_dropping {r : Record Json} (whole : r.keys.any Text.hasHalf = false)
    (names : List String) : (dropping names r).keys.any Text.hasHalf = false := by
  rw [List.any_eq_false] at whole ⊢
  intro name member
  obtain ⟨entry, present, rfl⟩ := List.mem_map.mp member
  exact whole entry.1 (List.mem_map_of_mem (List.mem_of_mem_filter present))

/-! ## Dropping fields at fault -/

namespace Field

/-- A field with one spelling that may be absent. -/
def Plain (field : Field) : Prop :=
  ∃ name, field.spellings = [name] ∧ field.absent = none

def faulty (fields : List Field) (r : Record Json) : List String :=
  (faultsOf fields r).map (·.1)

def sound (fields : List Field) (r : Record Json) : Record Json :=
  r.filter fun entry => !(faulty fields r).contains entry.1

variable {fields : List Field} {r : Record Json}

theorem mem_faulty (plain : ∀ field ∈ fields, field.Plain) {name : String} :
    name ∈ faulty fields r ↔ ∃ field ∈ fields, field.spellings = [name] ∧
      ∃ value, r.get? name = some value ∧ field.faults value ≠ 0 := by
  simp only [faulty, faultsOf, List.mem_map, List.mem_filterMap]
  constructor
  · rintro ⟨fault, ⟨field, member, found⟩, rfl⟩
    obtain ⟨spelling, spelled, absent⟩ := plain field member
    simp only [fault?, spelled, pick?_singleton, absent] at found
    cases known : r.get? spelling with
    | none => simp [known] at found
    | some value =>
      by_cases none_found : field.faults value = 0
      · simp [known, none_found] at found
      · simp only [known, Option.map_some, none_found, if_false, Option.some.injEq] at found
        subst found
        exact ⟨field, member, spelled, value, known, none_found⟩
  · rintro ⟨field, member, spelled, value, known, some_found⟩
    refine ⟨(name, field.faults value), ⟨field, member, ?_⟩, rfl⟩
    simp [fault?, spelled, pick?_singleton, known, some_found]

theorem get?_sound (name : String) :
    (sound fields r).get? name = if name ∈ faulty fields r then none else r.get? name :=
  get?_dropping (faulty fields r) r name

theorem faultsOf_sound (plain : ∀ field ∈ fields, field.Plain) :
    faultsOf fields (sound fields r) = [] := by
  rw [faultsOf, List.filterMap_eq_nil_iff]
  intro field member
  obtain ⟨name, spelled, absent⟩ := plain field member
  simp only [fault?, spelled, pick?_singleton, absent, get?_sound]
  by_cases dropped : name ∈ faulty fields r
  · simp [dropped]
  · cases known : r.get? name with
    | none => simp
    | some value =>
      have none_found : field.faults value = 0 := by
        by_contra some_found
        exact dropped ((mem_faulty plain).mpr ⟨field, member, spelled, value, known, some_found⟩)
      simp [dropped, none_found]

/-- A field at fault that is dropped had no reading before, and the other ones keep theirs. -/
theorem value?_dropping {α : Type} (plain : ∀ field ∈ fields, field.Plain)
    (distinct : (fields.map (·.spellings)).Nodup) {names : List String}
    (invalid : ∀ name ∈ names, name ∈ faulty fields r) {name : String} {reader : Reader α}
    (declared : Field.may [name] reader ∈ fields) :
    (dropping names r).value? reader [name] = r.value? reader [name] := by
  rw [value?_singleton, value?_singleton, get?_dropping]
  by_cases dropped : name ∈ names
  · rw [if_pos dropped]
    obtain ⟨field, member, spelled, value, known, some_found⟩ :=
      (mem_faulty plain).mp (invalid name dropped)
    have same : field = Field.may [name] reader :=
      List.inj_on_of_nodup_map distinct member declared spelled
    subst same
    have refused : (reader value).toOption = none := by
      cases outcome : reader value with
      | error n => rfl
      | ok a => exact absurd (by simp [may, Reader.faults, outcome]) some_found
    rw [known, Option.bind_some, refused, Option.bind_none]
  · rw [if_neg dropped]

end Field

/-! ## Decks -/

namespace Deck

theorem plain_fields : ∀ field ∈ fields, field.Plain := by
  simp [fields, Field.Plain, Field.may]

theorem nodup_fields : (fields.map (·.spellings)).Nodup := by
  simp [fields, Field.may]

theorem ofRecord_dropping {names : List String} {r : Record Json}
    (invalid : ∀ name ∈ names, name ∈ Field.faulty fields r) :
    ofRecord (dropping names r) = ofRecord r := by
  have kept {α : Type} {name : String} {reader : Reader α}
      (declared : Field.may [name] reader ∈ fields) :
      (dropping names r).value? reader [name] = r.value? reader [name] :=
    Field.value?_dropping plain_fields nodup_fields invalid declared
  unfold ofRecord
  rw [kept (by simp [fields]), kept (by simp [fields]), kept (by simp [fields]),
    kept (by simp [fields]), kept (by simp [fields]), kept (by simp [fields]),
    kept (by simp [fields]), kept (by simp [fields]), kept (by simp [fields]),
    kept (by simp [fields]), kept (by simp [fields])]

/-- A document as a deck, each field read by itself. -/
def reading? : Json → Option Deck
  | .obj entries =>
    if (withoutNulls entries).keys.any Text.hasHalf then none
    else
      match get? (withoutNulls entries) "slides" with
      | none | some (.arr _) => some (ofRecord (withoutNulls entries))
      | some _ => none
  | _ => none

theorem slides_faulty {r : Record Json} :
    "slides" ∈ Field.faulty fields r ↔
      ∃ value, r.get? "slides" = some value ∧ ∀ items, value ≠ .arr items := by
  rw [Field.mem_faulty plain_fields]
  have list_faults (value : Json) :
      (Field.may ["slides"] Reader.list).faults value ≠ 0 ↔ ∀ items, value ≠ .arr items := by
    cases value <;> simp [Field.may, Reader.faults, Reader.list]
  constructor
  · rintro ⟨field, member, spelled, value, known, some_found⟩
    have same : field = Field.may ["slides"] Reader.list :=
      List.inj_on_of_nodup_map nodup_fields member (by simp [fields]) spelled
    subst same
    exact ⟨value, known, (list_faults value).mp some_found⟩
  · rintro ⟨value, known, other⟩
    exact ⟨Field.may ["slides"] Reader.list, by simp [fields], rfl, value, known,
      (list_faults value).mpr other⟩

theorem reading?_eq {entries : Record Json}
    (whole : (withoutNulls entries).keys.any Text.hasHalf = false) :
    reading? (.obj entries) =
      if "slides" ∈ Field.faulty fields (withoutNulls entries) then none
      else some (ofRecord (withoutNulls entries)) := by
  have dropped := slides_faulty (r := withoutNulls entries)
  unfold reading?
  dsimp only
  rw [whole, if_neg Bool.false_ne_true]
  cases known : get? (withoutNulls entries) "slides" with
  | none => simp [dropped, known]
  | some value => cases value <;> simp [dropped, known]

theorem reading?_eq_some {document : Json} {deck : Deck} (found : reading? document = some deck) :
    ∃ entries, document = .obj entries ∧
      (withoutNulls entries).keys.any Text.hasHalf = false ∧
      deck = ofRecord (withoutNulls entries) := by
  cases document with
  | obj entries =>
    cases whole : (withoutNulls entries).keys.any Text.hasHalf with
    | true => simp [reading?, whole] at found
    | false =>
      rw [reading?_eq whole] at found
      split at found
      · cases found
      · exact ⟨entries, rfl, whole, (Option.some.inj found).symm⟩
  | _ => cases found

theorem slides_ofRecord {r : Record Json} {items : List Json} :
    (ofRecord r).slides = some items ↔ r.get? "slides" = some (.arr items) := by
  have own : (ofRecord r).slides =
      (r.get? "slides").bind fun value => (Reader.list value).toOption :=
    value?_singleton r Reader.list "slides"
  rw [own]
  cases r.get? "slides" with
  | none => simp
  | some value => cases value <;> simp [Reader.list, Except.toOption]

theorem read_eq {entries : Record Json}
    (whole : (withoutNulls entries).keys.any Text.hasHalf = false) :
    read (.obj entries) = Field.build fields ofRecord (withoutNulls entries) := by
  simp [read, readEntity, whole]

/-- The second reading has nothing to refuse. -/
theorem read_sound {entries : Record Json}
    (whole : (withoutNulls entries).keys.any Text.hasHalf = false) :
    read (.obj (dropping (Field.faulty fields (withoutNulls entries)) entries)) =
      .ok (ofRecord (withoutNulls entries)) := by
  have kept : withoutNulls (dropping (Field.faulty fields (withoutNulls entries)) entries) =
      Field.sound fields (withoutNulls entries) :=
    withoutNulls_dropping _ entries
  have names : (keys (Field.sound fields (withoutNulls entries))).any Text.hasHalf = false :=
    whole_dropping whole _
  have same : ofRecord (Field.sound fields (withoutNulls entries)) =
      ofRecord (withoutNulls entries) :=
    ofRecord_dropping fun _ member => member
  rw [read_eq (by rw [kept]; exact names), kept, Field.build, Field.faultsOf_sound plain_fields,
    same]

theorem names_of_read {entries : Record Json}
    (whole : (withoutNulls entries).keys.any Text.hasHalf = false) {refusal : Refusal}
    (refused : read (.obj entries) = .error refusal) :
    refusal.names = Field.faulty fields (withoutNulls entries) := by
  rw [read_eq whole, Field.build] at refused
  split at refused
  · cases refused
  · cases refused
    rfl

/-- Reading a deck says what it leaves out, and the second reading never adds to that. -/
theorem readLeniently_eq {ε : Type} {entries : Record Json}
    (whole : (withoutNulls entries).keys.any Text.hasHalf = false) :
    (readLeniently (.obj entries) : Trace ε (Option Deck)) =
      let invalid := Field.faulty fields (withoutNulls entries)
      if invalid = [] then pure (some (ofRecord (withoutNulls entries)))
      else if "slides" ∈ invalid then do
        Trace.report .warning "Unreadable deck: slides are missing or invalid"
        return none
      else do
        Trace.report .warning
          ("Ignoring invalid deck field(s): " ++ String.intercalate ", " (sortedNames invalid))
        return some (ofRecord (withoutNulls entries)) := by
  have again := read_sound whole
  unfold readLeniently
  dsimp only
  cases outcome : read (.obj entries) with
  | ok deck =>
    rw [read_eq whole, Field.build] at outcome
    split at outcome
    · rename_i clean
      cases outcome
      rw [if_pos (by rw [Field.faulty, clean, List.map_nil])]
    · cases outcome
  | error refusal =>
    have filled : Field.faulty fields (withoutNulls entries) ≠ [] := by
      intro clean
      rw [read_eq whole, Field.build, List.map_eq_nil_iff.mp clean] at outcome
      cases outcome
    unfold dropping at again
    dsimp only
    rw [names_of_read whole outcome, again, if_neg filled, List.isEmpty_eq_false_iff.mpr filled,
      Bool.false_or]
    by_cases dropped : "slides" ∈ Field.faulty fields (withoutNulls entries)
    · rw [if_pos (List.contains_iff_mem.mpr dropped), if_pos dropped]
    · rw [if_neg (fun found => dropped (List.contains_iff_mem.mp found)), if_neg dropped]

theorem outcome_readLeniently_eq {ε : Type} (document : Json) :
    (readLeniently document : Trace ε (Option Deck)).outcome = .ok (reading? document) := by
  cases document with
  | obj entries =>
    cases whole : (withoutNulls entries).keys.any Text.hasHalf with
    | true =>
      have refused : read (.obj entries) = .error .brokenName := by
        simp [read, readEntity, whole]
      simp only [readLeniently, refused, reading?, whole]
      rfl
    | false =>
      rw [readLeniently_eq whole, reading?_eq whole]
      dsimp only
      split
      · rename_i clean
        rw [clean, if_neg List.not_mem_nil]
        rfl
      · split <;> rfl
  | _ => rfl

/-- Fields at fault that are dropped, other than the slides, make no difference to the reading. -/
theorem reading?_dropping {entries : Record Json} {names : List String}
    (whole : (withoutNulls entries).keys.any Text.hasHalf = false)
    (invalid : ∀ name ∈ names, name ∈ Field.faulty fields (withoutNulls entries))
    (kept : "slides" ∉ names) :
    reading? (.obj (dropping names entries)) = reading? (.obj entries) := by
  have slides : get? (dropping names (withoutNulls entries)) "slides" =
      get? (withoutNulls entries) "slides" := by
    rw [get?_dropping, if_neg kept]
  unfold reading?
  dsimp only
  rw [withoutNulls_dropping, whole_dropping whole, whole, slides, ofRecord_dropping invalid]

end Deck

end DeckPress
