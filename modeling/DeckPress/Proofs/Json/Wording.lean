import DeckPress.Json.Plain
import DeckPress.Proofs.Text.Silence

/-!
What the text of a value says. A value is made of texts (strings, and the names of objects), numbers
and words. The word for null stands in its text only if it stands in one of its own texts, or if
there is a null in it; numbers do not have so much as its first letter.
-/

namespace DeckPress

open Text

/-! ## Numbers -/

namespace Decimal

section Foreign

variable {c : Char} (foreign : c ∉ numeralChars)

include foreign

theorem not_mem_of_subset {text : List Char} (numeral : text ⊆ numeralChars) : c ∉ text :=
  fun member => foreign (numeral member)

theorem not_mem_count (n : Nat) : c ∉ n.repr.toList := by
  rw [Nat.repr, String.toList_ofList]
  exact not_mem_toDigits foreign (by decide) n

theorem not_mem_whole (n : Int) : c ∉ (toString n).toList := by
  rw [Int.toString_eq_repr, Int.repr_eq_if]
  split
  · exact not_mem_count foreign _
  · rw [String.toList_append, List.mem_append, not_or]
    exact ⟨not_mem_of_subset foreign (by decide), not_mem_count foreign _⟩

theorem not_mem_layOut {style : PointStyle} {digits : List Char} (numeric : c ∉ digits)
    (point : Int) : c ∉ style.layOut digits point := by
  have other {d : Char} (numeral : d ∈ numeralChars) : c ≠ d :=
    (ne_of_mem_of_not_mem numeral foreign).symm
  have zero : c ≠ '0' := other (by decide)
  have dot : c ≠ '.' := other (by decide)
  have zeros (n : Nat) : c ∉ List.replicate n '0' :=
    fun member => zero (List.eq_of_mem_replicate member)
  have start (n : Nat) : c ∉ digits.take n := fun member => numeric (List.mem_of_mem_take member)
  have rest (n : Nat) : c ∉ digits.drop n := fun member => numeric (List.mem_of_mem_drop member)
  have sign (negative : Prop) [Decidable negative] : c ≠ (if negative then '-' else '+') := by
    split <;> exact other (by decide)
  have exponent (n : Nat) : c ∉ Nat.toDigits 10 n := not_mem_toDigits foreign (by decide) n
  unfold PointStyle.layOut
  split
  · split
    · simp [zeros, numeric, zero, dot]
    · split
      · simp [zeros, numeric, zero, dot]
      · simp [start, rest, dot]
  · simp only [List.mem_append, List.mem_cons, not_or]
    refine ⟨⟨start 1, ?_⟩, other (by decide), sign _, zeros _, exponent _⟩
    -- The point stands only where digits follow it.
    split
    · exact List.not_mem_nil
    · exact List.not_mem_cons_of_ne_of_not_mem dot (rest 1)

theorem not_mem_write (x : Float) : c ∉ (write x).toList := by
  have sign (negative : Bool) : c ∉ (if negative then ['-'] else []) := by
    cases negative <;> exact not_mem_of_subset foreign (by decide)
  have digits (n : Nat) : c ∉ significant n := by
    unfold significant
    rw [List.mem_reverse]
    intro member
    have inner := (List.dropWhile_sublist _).subset member
    exact not_mem_toDigits foreign (by decide) n (List.mem_reverse.mp inner)
  unfold write
  split
  · exact not_mem_of_subset foreign (by decide)
  · rw [String.toList_ofList, List.mem_append, not_or]
    exact ⟨sign _, not_mem_of_subset foreign (by decide)⟩
  · split
    · rw [String.toList_ofList, List.mem_append, not_or]
      exact ⟨sign _, not_mem_of_subset foreign (by decide)⟩
    · rw [String.toList_ofList, List.mem_append, not_or]
      exact ⟨sign _, not_mem_layOut foreign (digits _) _⟩

end Foreign

end Decimal

namespace Json

theorem not_mem_floatStyleText {c : Char} (foreign : c ∉ numeralChars) (x : Float) :
    c ∉ (floatStyleText x).toList := by
  unfold floatStyleText
  split
  · exact Decimal.not_mem_whole foreign _
  · exact Decimal.not_mem_write foreign x

/-- A value whose text is a word that numbers and lists cannot have is that word. -/
theorem eq_str_of_plainText {v : Json} {s : String} {c : Char} (same : v.plainText = s)
    (member : c ∈ s.toList) (foreign : c ∉ numeralChars) (word : s ∉ ["None", "True", "False"])
    (first : s.toList.head? ∉ [some '[', some '\x7b']) : v = .str s := by
  subst same
  cases v with
  | str t => rw [plainText_str]
  | int n =>
    have apart := Decimal.not_mem_whole foreign n
    exact absurd member (by simpa [plainText, innerText] using apart)
  | float x =>
    have apart := Decimal.not_mem_write foreign x
    exact absurd member (by simpa [plainText, innerText] using apart)
  | null => simp [plainText, innerText] at word
  | bool b => cases b <;> simp [plainText, innerText, boolWord] at word
  | arr items => simp [plainText, innerText] at first
  | obj fields => simp [plainText, innerText] at first

/-! ## What is in a value -/

mutual

/-- The strings and the names in a value, at any depth. -/
def texts : Json → List String
  | .str s => [s]
  | .arr items => itemTexts items
  | .obj fields => fieldTexts fields
  | _ => []

def itemTexts : List Json → List String
  | [] => []
  | item :: rest => texts item ++ itemTexts rest

def fieldTexts : List (String × Json) → List String
  | [] => []
  | (name, value) :: rest => name :: texts value ++ fieldTexts rest

end

mutual

def holdsNull : Json → Bool
  | .null => true
  | .arr items => itemsHoldNull items
  | .obj fields => fieldsHoldNull fields
  | _ => false

def itemsHoldNull : List Json → Bool
  | [] => false
  | item :: rest => holdsNull item || itemsHoldNull rest

def fieldsHoldNull : List (String × Json) → Bool
  | [] => false
  | (_, value) :: rest => holdsNull value || fieldsHoldNull rest

end

/-- The word does not stand in any text of a value. -/
def Wordless (j : Json) : Prop :=
  ∀ s ∈ j.texts, Text.Wordless s

instance (j : Json) : Decidable j.Wordless :=
  inferInstanceAs (Decidable (∀ s ∈ _, _))

theorem wordless_str {s : String} : (str s).Wordless ↔ Text.Wordless s := by
  unfold Wordless
  simp only [texts, List.mem_singleton, forall_eq]

theorem wordless_arr {items : List Json} :
    (arr items).Wordless ↔ ∀ item ∈ items, item.Wordless := by
  have all : (∀ s ∈ itemTexts items, Text.Wordless s) ↔ ∀ item ∈ items, item.Wordless := by
    induction items with
    | nil => simp [itemTexts]
    | cons item rest ih =>
      simp only [itemTexts, List.forall_mem_append, List.forall_mem_cons, ih, Wordless]
  exact all

end Json

def Record.Wordless (r : Record Json) : Prop :=
  ∀ field ∈ r, Text.Wordless field.1 ∧ field.2.Wordless

namespace Json

theorem wordless_obj {fields : Record Json} : (obj fields).Wordless ↔ fields.Wordless := by
  have all : (∀ s ∈ fieldTexts fields, Text.Wordless s) ↔
      ∀ field ∈ fields, Text.Wordless field.1 ∧ field.2.Wordless := by
    induction fields with
    | nil => simp [fieldTexts]
    | cons field rest ih =>
      simp only [fieldTexts, List.cons_append, List.forall_mem_append, List.forall_mem_cons, ih,
        Wordless, and_assoc]
  exact all

theorem holdsNull_arr {items : List Json} :
    (arr items).holdsNull = false ↔ ∀ item ∈ items, item.holdsNull = false := by
  have all : itemsHoldNull items = false ↔ ∀ item ∈ items, item.holdsNull = false := by
    induction items with
    | nil => simp [itemsHoldNull]
    | cons item rest ih => simp only [itemsHoldNull, Bool.or_eq_false_iff, List.forall_mem_cons, ih]
  exact all

theorem holdsNull_obj {fields : Record Json} :
    (obj fields).holdsNull = false ↔ ∀ field ∈ fields, field.2.holdsNull = false := by
  have all : fieldsHoldNull fields = false ↔ ∀ field ∈ fields, field.2.holdsNull = false := by
    induction fields with
    | nil => simp [fieldsHoldNull]
    | cons field rest ih =>
      simp only [fieldsHoldNull, Bool.or_eq_false_iff, List.forall_mem_cons, ih]
  exact all

theorem induction {motive : Json → Prop} (null : motive .null) (bool : ∀ b, motive (.bool b))
    (int : ∀ n, motive (.int n)) (float : ∀ x, motive (.float x)) (str : ∀ s, motive (.str s))
    (arr : ∀ items, (∀ item ∈ items, motive item) → motive (.arr items))
    (obj : ∀ fields, (∀ field ∈ fields, motive field.2) → motive (.obj fields)) (j : Json) :
    motive j :=
  @Json.rec motive (fun items => ∀ item ∈ items, motive item)
    (fun fields => ∀ field ∈ fields, motive field.2) (fun field => motive field.2)
    null bool int float str arr obj
    nofun (fun _ _ first others => List.forall_mem_cons.mpr ⟨first, others⟩)
    nofun (fun _ _ first others => List.forall_mem_cons.mpr ⟨first, others⟩)
    (fun _ _ value => value) j

/-! ## What a value is written as -/

theorem silent_innerItems {items : List Json} (each : ∀ item ∈ items, Silent item.innerText) :
    Silent (innerItems items) := by
  induction items with
  | nil => exact silent_of_not_mem (by decide)
  | cons item rest ih =>
    obtain ⟨first, others⟩ := List.forall_mem_cons.mp each
    cases rest with
    | nil => exact silent_append first (by decide)
    | cons next more =>
      have later : Guarded (", ".toList ++ innerItems (next :: more)) :=
        guarded_cons (by decide) (silent_append_of_not_mem (s := [' ']) (by decide) (ih others))
      rw [innerItems, List.append_assoc]
      · exact silent_append first later
      · exact nofun

theorem guarded_innerField {name : String} {value : List Char} (known : Text.Wordless name)
    (silent : Silent value) : Guarded (quotedChars name.toList ++ ": ".toList ++ value) := by
  rw [List.append_assoc]
  have apart : Guarded (": ".toList ++ value) :=
    guarded_cons (by decide) (silent_append_of_not_mem (s := [' ']) (by decide) silent)
  exact (guarded_quotedChars known.read).append apart

theorem silent_innerFields {fields : Record Json}
    (each : ∀ field ∈ fields, Text.Wordless field.1 ∧ Silent field.2.innerText) :
    Silent (innerFields fields) := by
  induction fields with
  | nil => exact silent_of_not_mem (by decide)
  | cons field rest ih =>
    obtain ⟨⟨known, silent⟩, others⟩ := List.forall_mem_cons.mp each
    cases rest with
    | nil => exact silent_append (guarded_innerField known silent).1 (by decide)
    | cons next more =>
      have later : Guarded (", ".toList ++ innerFields (next :: more)) :=
        guarded_cons (by decide) (silent_append_of_not_mem (s := [' ']) (by decide) (ih others))
      rw [innerFields, List.append_assoc]
      · exact silent_append (guarded_innerField known silent).1 later
      · exact nofun

theorem silent_innerText (j : Json) (wordless : j.Wordless) (full : j.holdsNull = false) :
    Silent j.innerText := by
  induction j using induction with
  | null => cases full
  | bool b => cases b <;> exact silent_of_not_mem (by decide)
  | int n => exact silent_of_not_mem (Decimal.not_mem_whole (by decide) n)
  | float x => exact silent_of_not_mem (Decimal.not_mem_write (by decide) x)
  | str s => exact (guarded_quotedChars (wordless_str.mp wordless).read).1
  | arr items ih =>
    have each (item : Json) (member : item ∈ items) : Silent item.innerText :=
      ih item member (wordless_arr.mp wordless item member) (holdsNull_arr.mp full item member)
    exact (guarded_cons (by decide) (silent_innerItems each)).1
  | obj fields ih =>
    have each (field : String × Json) (member : field ∈ fields) :
        Text.Wordless field.1 ∧ Silent field.2.innerText := by
      obtain ⟨name, value⟩ := wordless_obj.mp wordless field member
      exact ⟨name, ih field member value (holdsNull_obj.mp full field member)⟩
    exact (guarded_cons (by decide) (silent_innerFields each)).1

theorem silent_plainText {j : Json} (wordless : j.Wordless) (full : j.holdsNull = false) :
    Silent j.plainText.toList := by
  have inner := silent_innerText j wordless full
  cases j with
  | str s => exact (wordless_str.mp wordless).kept
  | _ => simpa [plainText] using inner

theorem silent_styleItems {items : List Json}
    (each : ∀ item ∈ items, Silent item.styleText.toList) : Silent (styleItems items).toList := by
  induction items with
  | nil => exact silent_nil
  | cons item rest ih =>
    obtain ⟨first, others⟩ := List.forall_mem_cons.mp each
    cases rest with
    | nil => exact first
    | cons next more =>
      rw [styleItems, String.toList_append, String.toList_append, List.append_assoc]
      · exact silent_append first (guarded_cons (by decide) (ih others))
      · exact nofun

theorem silent_styleText (j : Json) (wordless : j.Wordless) (full : j.holdsNull = false) :
    Silent j.styleText.toList := by
  have plain := silent_plainText wordless full
  induction j using induction with
  | bool b => cases b <;> exact silent_of_not_mem (by decide)
  | float x => exact silent_of_not_mem (not_mem_floatStyleText (by decide) x)
  | arr items ih =>
    have each (item : Json) (member : item ∈ items) : Silent item.styleText.toList := by
      have known := wordless_arr.mp wordless item member
      have whole := holdsNull_arr.mp full item member
      exact ih item member known whole (silent_plainText known whole)
    exact silent_styleItems each
  | null | int _ | str _ | obj _ => exact plain

end Json

end DeckPress
