import Mathlib.Data.List.Infix
import DeckPress.Text.Escape
import DeckPress.Text.Quoted

/-!
Texts without the word for null. The word can stand in a text that is put together from others
only if it stands in one of them or runs over a place where two of them meet. It cannot run over a
character that is not one of its own, and it cannot start in a text that has not its first letter;
so neither escapes nor quotes make it.
-/

namespace DeckPress.Text

/-- The word that the plain form has for null. -/
def nullWord : List Char := ['N', 'o', 'n', 'e']

def Silent (s : List Char) : Prop :=
  ¬ nullWord <:+: s

instance (s : List Char) : Decidable (Silent s) :=
  inferInstanceAs (Decidable (¬ _))

/-- A text that may stand after any other. -/
def Guarded (s : List Char) : Prop :=
  Silent s ∧ ∀ c ∈ s.head?, c ∉ nullWord

-- The instances for options are named, since a search may find the one that tries all characters.
instance (s : List Char) : Decidable (Guarded s) :=
  @instDecidableAnd _ _ _ (Option.decidableForallMem _)

/-! ## Texts that meet -/

theorem Silent.of_infix {s t : List Char} (silent : Silent t) (inner : s <:+: t) : Silent s :=
  fun found => silent (found.trans inner)

theorem silent_of_not_mem {s : List Char} (absent : 'N' ∉ s) : Silent s :=
  fun found => absent (found.subset (by decide))

theorem silent_nil : Silent [] := by decide

/-- The word does not start in a text without its first letter. -/
theorem prefix_of_suffix {s first rest : List Char} (absent : 'N' ∉ s)
    (cut : nullWord = first ++ rest) (ends : first <:+ s) : first = [] := by
  cases first with
  | nil => rfl
  | cons c more =>
    have same : c = 'N' := (List.cons.inj cut).1.symm
    exact absurd (ends.subset List.mem_cons_self) (same ▸ absent)

theorem silent_append {s t : List Char} (left : Silent s) (right : Guarded t) :
    Silent (s ++ t) := by
  intro found
  rcases List.infix_append_iff.mp found with inLeft | inRight | ⟨first, rest, cut, ends, starts⟩
  · exact left inLeft
  · exact right.1 inRight
  -- Over the seam: the right text would begin with what is left of the word.
  · cases rest with
    | nil =>
      rw [List.append_nil] at cut
      exact left (cut ▸ ends.isInfix)
    | cons c more =>
      obtain ⟨tail, rfl⟩ := starts
      refine right.2 c rfl ?_
      rw [cut]
      exact List.mem_append_right first List.mem_cons_self

theorem silent_append_of_not_mem {s t : List Char} (absent : 'N' ∉ s) (right : Silent t) :
    Silent (s ++ t) := by
  intro found
  rcases List.infix_append_iff.mp found with inLeft | inRight | ⟨first, rest, cut, ends, starts⟩
  · exact silent_of_not_mem absent inLeft
  · exact right inRight
  · rw [prefix_of_suffix absent cut ends, List.nil_append] at cut
    exact right (cut ▸ starts.isInfix)

theorem guarded_nil : Guarded [] := by decide

theorem guarded_cons {c : Char} {s : List Char} (foreign : c ∉ nullWord) (rest : Silent s) :
    Guarded (c :: s) := by
  have absent : 'N' ∉ [c] := by
    intro member
    rw [List.mem_singleton] at member
    exact foreign (member ▸ by decide)
  refine ⟨silent_append_of_not_mem absent rest, fun d head => ?_⟩
  cases head
  exact foreign

theorem Guarded.append {s t : List Char} (left : Guarded s) (right : Guarded t) :
    Guarded (s ++ t) := by
  refine ⟨silent_append left.1 right, fun c head => ?_⟩
  cases s with
  | nil => exact right.2 c head
  | cons d rest => exact left.2 c head

theorem guarded_flatten {parts : List (List Char)} (each : ∀ part ∈ parts, Guarded part) :
    Guarded parts.flatten := by
  induction parts with
  | nil => exact guarded_nil
  | cons part rest ih =>
    obtain ⟨first, others⟩ := List.forall_mem_cons.mp each
    exact first.append (ih others)

/-- What holds of the empty text, and of two texts with a separator between them if it holds of
both, holds of texts that are written in a row. -/
theorem intercalate_induction {P : String → Prop} {separator : String} (empty : P "")
    (join : ∀ s t, P s → P t → P (s ++ separator ++ t)) {parts : List String}
    (each : ∀ part ∈ parts, P part) : P (separator.intercalate parts) := by
  induction parts with
  | nil =>
    rw [String.intercalate_nil]
    exact empty
  | cons part rest ih =>
    obtain ⟨first, others⟩ := List.forall_mem_cons.mp each
    cases rest with
    | nil =>
      rw [String.intercalate_singleton]
      exact first
    | cons next more =>
      rw [String.intercalate_cons_cons]
      exact join _ _ first (ih others)

theorem not_mem_intercalate {x : Char} {separator : String} (apart : x ∉ separator.toList)
    {parts : List String} (each : ∀ part ∈ parts, x ∉ part.toList) :
    x ∉ (separator.intercalate parts).toList := by
  refine intercalate_induction (P := fun s => x ∉ s.toList) List.not_mem_nil ?_ each
  intro s t left right
  simp only [String.toList_append, List.mem_append, not_or]
  exact ⟨⟨left, apart⟩, right⟩

theorem silent_intercalate {separator : String} {c : Char} {more : List Char}
    (spelled : separator.toList = c :: more) (foreign : c ∉ nullWord) (absent : 'N' ∉ more)
    {parts : List String} (each : ∀ part ∈ parts, Silent part.toList) :
    Silent (separator.intercalate parts).toList := by
  refine intercalate_induction (P := fun s => Silent s.toList) silent_nil ?_ each
  intro s t left right
  rw [String.toList_append, String.toList_append, spelled, List.append_assoc, List.cons_append]
  exact silent_append left (guarded_cons foreign (silent_append_of_not_mem absent right))

/-- The word stands in texts that are joined only if it stands in one of them. -/
def Seamless (parts : List (List Char)) : Prop :=
  nullWord <:+: parts.flatten → ∃ part ∈ parts, nullWord <:+: part

instance (parts : List (List Char)) : Decidable (Seamless parts) :=
  inferInstanceAs (Decidable (_ → _))

theorem Seamless.silent {parts : List (List Char)} (seamless : Seamless parts)
    (each : ∀ part ∈ parts, Silent part) : Silent parts.flatten := by
  intro found
  obtain ⟨part, member, inside⟩ := seamless found
  exact each part member inside

/-! ## Escapes -/

/-- A text in which the word does not start, and over whose beginning it does not run. -/
def Sealed (s : List Char) : Prop :=
  'N' ∉ s ∧ ∃ c ∈ s.head?, c ∉ nullWord

instance (s : List Char) : Decidable (Sealed s) :=
  @instDecidableAnd _ _ _ (Option.decidableExistsMem _)

theorem sealed_cons {c : Char} {s : List Char} (foreign : c ∉ nullWord) (absent : 'N' ∉ s) :
    Sealed (c :: s) := by
  refine ⟨?_, c, rfl, foreign⟩
  rw [List.mem_cons, not_or]
  exact ⟨fun same => foreign (same ▸ by decide), absent⟩

section Written

variable {α : Type} {f : α → List Char} {g : Char → α}

/-- Where each element is written as the character that it is, or sealed, what is written starts
like the word only if the elements do. -/
theorem prefix_of_written (written : ∀ a, (∃ c, a = g c ∧ f a = [c]) ∨ Sealed (f a))
    {word : List Char} (letters : word ⊆ nullWord) {s : List α} (starts : word <+: s.flatMap f) :
    word.map g <+: s := by
  induction word generalizing s with
  | nil => exact List.nil_prefix
  | cons x word ih =>
    cases s with
    | nil => simp at starts
    | cons a rest =>
      rw [List.flatMap_cons] at starts
      rcases written a with ⟨c, rfl, plain⟩ | ⟨-, d, head, foreign⟩
      · rw [plain, List.singleton_append, List.cons_prefix_cons] at starts
        obtain ⟨rfl, starts⟩ := starts
        rw [List.map_cons, List.cons_prefix_cons]
        exact ⟨rfl, ih (List.subset_of_cons_subset letters) starts⟩
      · cases spelled : f a with
        | nil => simp [spelled] at head
        | cons y more =>
          rw [spelled] at head starts
          cases head
          obtain ⟨rfl, -⟩ := List.cons_prefix_cons.mp starts
          exact absurd (letters List.mem_cons_self) foreign

theorem nullWord_of_written (written : ∀ a, (∃ c, a = g c ∧ f a = [c]) ∨ Sealed (f a))
    {s : List α} (found : nullWord <:+: s.flatMap f) : nullWord.map g <:+: s := by
  induction s with
  | nil =>
    rw [List.flatMap_nil] at found
    exact absurd found silent_nil
  | cons a rest ih =>
    have later (inner : nullWord <:+: rest.flatMap f) : nullWord.map g <:+: a :: rest :=
      (ih inner).trans (List.suffix_cons a rest).isInfix
    have starting (starts : nullWord <+: (a :: rest).flatMap f) :
        nullWord.map g <:+: a :: rest :=
      (prefix_of_written written (List.Subset.refl _) starts).isInfix
    -- The word can start in an element that is written as itself, never in a sealed one.
    rcases written a with ⟨c, -, plain⟩ | ⟨absent, -⟩
    · rw [List.flatMap_cons, plain, List.singleton_append, List.infix_cons_iff] at found
      rw [List.flatMap_cons, plain, List.singleton_append] at starting
      exact found.elim starting later
    · rw [List.flatMap_cons] at found
      rcases List.infix_append_iff.mp found with inner | inner | ⟨first, tail, cut, ends, starts⟩
      · exact absurd inner (silent_of_not_mem absent)
      · exact later inner
      · rw [prefix_of_suffix absent cut ends, List.nil_append] at cut
        exact later (cut ▸ starts.isInfix)

theorem silent_flatMap {f : Char → List Char} (written : ∀ c, f c = [c] ∨ Sealed (f c))
    {s : List Char} (silent : Silent s) : Silent (s.flatMap f) := by
  intro found
  refine silent ?_
  have same : nullWord.map id <:+: s :=
    nullWord_of_written (fun c => (written c).imp_left fun plain => ⟨c, rfl, plain⟩) found
  rwa [List.map_id] at same

end Written

theorem silent_replaceChar {c : Char} {entity s : List Char} (closed : Sealed entity)
    (silent : Silent s) : Silent (replaceChar c entity s) := by
  refine silent_flatMap (fun x => ?_) silent
  by_cases same : x = c
  · rw [if_pos same]
    exact Or.inr closed
  · rw [if_neg same]
    exact Or.inl rfl

theorem silent_escapeChars {s : List Char} (silent : Silent s) : Silent (escapeChars s) := by
  have all (table : List (Char × List Char)) (closed : ∀ entity ∈ table, Sealed entity.2)
      {s : List Char} (silent : Silent s) :
      Silent (table.foldl (fun text entity => replaceChar entity.1 entity.2 text) s) := by
    induction table generalizing s with
    | nil => exact silent
    | cons entity rest ih =>
      obtain ⟨first, others⟩ := List.forall_mem_cons.mp closed
      exact ih others (silent_replaceChar first silent)
  exact all entities (by decide) silent

/-! ## Digits and quotes -/

/-- What numbers are written with, and the words for what is no finite number. -/
def numeralChars : List Char :=
  "0123456789abcdef*+-.infnan".toList

theorem digitChar_mem (n : Nat) : n.digitChar ∈ numeralChars := by
  by_cases large : 16 ≤ n
  · rw [Nat.digitChar_eq_star.mpr large]
    decide
  · have digits : ∀ k < 16, k.digitChar ∈ numeralChars := by decide
    exact digits n (Nat.lt_of_not_le large)

section Foreign

variable {c : Char} (foreign : c ∉ numeralChars)

include foreign

theorem not_mem_toDigits {base : Nat} (large : 1 < base) (n : Nat) : c ∉ Nat.toDigits base n := by
  have other (k : Nat) : c ≠ k.digitChar := ne_of_mem_of_not_mem (digitChar_mem k) foreign |>.symm
  induction n using Nat.strongRecOn with
  | ind n ih =>
    rw [Nat.toDigits_eq_if large]
    split
    · rw [List.mem_singleton]
      exact other n
    · rename_i above
      rw [List.mem_append, not_or, List.mem_singleton]
      exact ⟨ih (n / base) (Nat.div_lt_self (by omega) large), other _⟩

theorem not_mem_hexText (places n : Nat) : c ∉ hexText places n := by
  rw [hexText, List.mem_append, not_or]
  refine ⟨fun member => ?_, not_mem_toDigits foreign (by decide) n⟩
  exact foreign (List.eq_of_mem_replicate member ▸ by decide)

end Foreign

theorem sealed_unitEscape (unit : Nat) : Sealed (unitEscape unit) := by
  refine sealed_cons (by decide) ?_
  exact List.not_mem_cons_of_ne_of_not_mem (by decide) (not_mem_hexText (by decide) 4 unit)

theorem written_quotedChar {quote : Char} (known : quote ∈ ['\'', '"']) (c : Char) :
    quotedChar quote c = [c] ∨ Sealed (quotedChar quote c) := by
  have hexadecimal (letter : Char) (other : 'N' ≠ letter) (places n : Nat) :
      Sealed (['\\', letter] ++ hexText places n) := by
    refine sealed_cons (by decide) ?_
    exact List.not_mem_cons_of_ne_of_not_mem other (not_mem_hexText (by decide) places n)
  unfold quotedChar
  split
  · rename_i special
    have absent : 'N' ∉ [c] := by
      rw [List.mem_singleton]
      rintro rfl
      rcases special with same | same
      · exact absurd (same ▸ known) (by decide)
      · exact absurd same (by decide)
    exact Or.inr (sealed_cons (by decide) absent)
  split
  · exact Or.inr (by decide)
  split
  · exact Or.inr (by decide)
  split
  · exact Or.inr (by decide)
  split
  · exact Or.inl rfl
  split
  · exact Or.inr (hexadecimal 'x' (by decide) _ _)
  split
  · exact Or.inr (sealed_unitEscape _)
  · exact Or.inr (hexadecimal 'U' (by decide) _ _)

theorem quoteFor_known (s : List Char) : quoteFor s ∈ ['\'', '"'] := by
  unfold quoteFor
  split <;> decide

/-- Quoted, a text has the word only if it has it as it is read. -/
theorem guarded_quotedChars {s : List Char} (read : ¬ nullWord.map Glyph.char <:+: glyphs s) :
    Guarded (quotedChars s) := by
  have foreign : quoteFor s ∉ nullWord := by
    unfold quoteFor
    split <;> decide
  have inner : Silent ((glyphs s).flatMap (quotedGlyph (quoteFor s))) := by
    intro found
    refine read (nullWord_of_written (fun glyph => ?_) found)
    cases glyph with
    | char c =>
      exact (written_quotedChar (quoteFor_known s) c).imp_left fun plain => ⟨c, rfl, plain⟩
    | half unit => exact Or.inr (sealed_unitEscape unit)
  exact guarded_cons foreign (silent_append inner (guarded_cons foreign silent_nil))

/-! ## Texts of a document -/

/-- A text in which the word does not stand, as it is kept and as it is read. -/
structure Wordless (s : String) : Prop where
  kept : Silent s.toList
  read : ¬ nullWord.map Glyph.char <:+: glyphs s.toList

instance (s : String) : Decidable (Wordless s) :=
  decidable_of_iff (Silent s.toList ∧ ¬ nullWord.map Glyph.char <:+: glyphs s.toList)
    ⟨fun both => ⟨both.1, both.2⟩, fun wordless => ⟨wordless.kept, wordless.read⟩⟩

end DeckPress.Text
