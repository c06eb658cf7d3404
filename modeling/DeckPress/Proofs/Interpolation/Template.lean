import DeckPress.Proofs.Interpolation

/-!
Text as a template. Every text comes apart in exactly one way into literals and placeholders, each
of which stands at the leftmost brace from which one can be read. Interpolation writes the template
out with a value in the place of each key; it reads nothing of what it has written.
-/

namespace DeckPress.Interpolation

def written (key : List Char) : List Char :=
  '\x7b' :: key ++ ['\x7d']

/-- What may be a key: characters that are no closing brace, at least one of them. -/
def IsKey (key : List Char) : Prop :=
  key ≠ [] ∧ '\x7d' ∉ key

instance (key : List Char) : Decidable (IsKey key) :=
  inferInstanceAs (Decidable (key ≠ [] ∧ '\x7d' ∉ key))

/-- A placeholder can be read from the beginning of a text. -/
def Opens (text : List Char) : Prop :=
  ∃ key after, IsKey key ∧ text = written key ++ after

/-- What is written in the place of a key: its value in style form, or the placeholder again when
there is no value or a null. -/
def standsFor (values : Record Json) (key : List Char) : List Char :=
  match values.get? (String.ofList key) with
  | none | some .null => written key
  | some value => value.styleText.toList

/-- Literals and keys in turn: every key with the literal before it, then the last literal. -/
structure Template where
  slots : List (List Char × List Char)
  tail : List Char

namespace Template

def literals (t : Template) : List (List Char) :=
  t.slots.map (·.1) ++ [t.tail]

def fill (stands : List Char → List Char) (t : Template) : List Char :=
  t.slots.flatMap (fun slot => slot.1 ++ stands slot.2) ++ t.tail

/-- A template is the one of a text: with its placeholders written out it is the text, no literal
holds a placeholder, and none can be read from a place in the literal before a key. -/
structure Of (t : Template) (text : List Char) : Prop where
  whole : t.fill written = text
  keys : ∀ slot ∈ t.slots, IsKey slot.2
  bare : ∀ literal ∈ t.literals, ∀ key, IsKey key → ¬ written key <:+: literal
  leftmost : ∀ literal key after, (literal, key) :: after <:+ t.slots →
    ∀ part, part ≠ [] → part <:+ literal →
      ¬ Opens (part ++ written key ++ fill written ⟨after, t.tail⟩)

/-! ## Reading placeholders -/

theorem written_append (key after : List Char) :
    written key ++ after = '\x7b' :: (key ++ '\x7d' :: after) := by
  simp [written]

theorem placeholder?_written {key after : List Char} (isKey : IsKey key) :
    placeholder? (key ++ '\x7d' :: after) = some (key, after) := by
  have inside : ∀ c ∈ key, (c != '\x7d') = true := by
    intro c member
    exact bne_iff_ne.mpr fun closes => isKey.2 (closes ▸ member)
  obtain ⟨c, rest, rfl⟩ := List.exists_cons_of_ne_nil isKey.1
  unfold placeholder?
  rw [List.takeWhile_append_of_pos inside, List.dropWhile_append_of_pos inside]
  simp

theorem isKey_of_placeholder? {text key after : List Char}
    (found : placeholder? text = some (key, after)) : IsKey key := by
  unfold placeholder? at found
  split at found
  next c taken brace rest front back =>
    cases found
    refine ⟨List.cons_ne_nil _ _, fun member => ?_⟩
    rw [← front] at member
    simpa using List.all_eq_true.mp List.all_takeWhile _ member
  next => cases found

/-- A closing brace ends a key, so a placeholder is read in one way only. -/
theorem written_inj {key other after rest : List Char} (first : IsKey key) (second : IsKey other)
    (same : written key ++ after = written other ++ rest) : key = other ∧ after = rest := by
  rw [written_append, written_append, List.cons.injEq] at same
  have found : placeholder? (key ++ '\x7d' :: after) = some (key, after) :=
    placeholder?_written first
  rw [same.2, placeholder?_written second] at found
  cases found
  exact ⟨rfl, rfl⟩

theorem not_opens_brace {rest : List Char} (none_found : placeholder? rest = none) :
    ¬ Opens ('\x7b' :: rest) := by
  rintro ⟨key, after, isKey, same⟩
  rw [written_append, List.cons.injEq] at same
  rw [same.2, placeholder?_written isKey] at none_found
  cases none_found

theorem not_opens_of_ne {c : Char} {rest : List Char} (other : c ≠ '\x7b') :
    ¬ Opens (c :: rest) := by
  rintro ⟨key, after, -, same⟩
  rw [written_append, List.cons.injEq] at same
  exact other same.1

/-! ## The template of a text -/

theorem of_nil {tail text : List Char} : Of ⟨[], tail⟩ text ↔
    tail = text ∧ ∀ key, IsKey key → ¬ written key <:+: tail := by
  constructor
  · rintro ⟨whole, -, bare, -⟩
    exact ⟨by simpa [fill] using whole, bare tail (by simp [literals])⟩
  · rintro ⟨rfl, bare⟩
    exact ⟨by simp [fill], by simp, by simpa [literals] using bare, by simp⟩

theorem of_empty : Of ⟨[], []⟩ [] :=
  of_nil.mpr ⟨rfl, fun _ _ inside => nomatch List.infix_nil.mp inside⟩

theorem of_cons {literal key : List Char} {slots : List (List Char × List Char)}
    {tail text : List Char} : Of ⟨(literal, key) :: slots, tail⟩ text ↔
      ∃ rest, Of ⟨slots, tail⟩ rest ∧ text = literal ++ (written key ++ rest) ∧ IsKey key ∧
        (∀ other, IsKey other → ¬ written other <:+: literal) ∧
        ∀ part, part ≠ [] → part <:+ literal → ¬ Opens (part ++ written key ++ rest) := by
  constructor
  · rintro ⟨whole, keys, bare, leftmost⟩
    refine ⟨fill written ⟨slots, tail⟩, ⟨rfl, ?_, ?_, ?_⟩, ?_, ?_, ?_, ?_⟩
    · exact fun slot member => keys slot (List.mem_cons_of_mem _ member)
    · exact fun other member => bare other (List.mem_cons_of_mem _ member)
    · exact fun l k after later => leftmost l k after (later.trans (List.suffix_cons _ _))
    · simpa [fill] using whole.symm
    · exact keys _ List.mem_cons_self
    · exact bare literal List.mem_cons_self
    · exact leftmost literal key slots List.suffix_rfl
  · rintro ⟨rest, of, rfl, isKey, bare, leftmost⟩
    refine ⟨by simp [← of.whole, fill], ?_, ?_, ?_⟩
    · exact List.forall_mem_cons.mpr ⟨isKey, of.keys⟩
    · exact List.forall_mem_cons.mpr ⟨bare, of.bare⟩
    · intro l k after here
      rcases List.suffix_cons_iff.mp here with same | later
      · cases same
        rw [of.whole]
        exact leftmost
      · exact of.leftmost l k after later

/-- Two literals before placeholders in one text are the same when neither placeholder can be read
from an earlier place. -/
theorem literal_unique {first second after rest : List Char}
    (same : first ++ after = second ++ rest) (opens : Opens after) (opens' : Opens rest)
    (leftmost : ∀ part, part ≠ [] → part <:+ first → ¬ Opens (part ++ after))
    (leftmost' : ∀ part, part ≠ [] → part <:+ second → ¬ Opens (part ++ rest)) :
    first = second := by
  rcases List.append_eq_append_iff.mp same with ⟨part, rfl, rfl⟩ | ⟨part, rfl, rfl⟩
  · have empty : part = [] := Classical.byContradiction fun more =>
      leftmost' part more (List.suffix_append _ _) opens
    rw [empty, List.append_nil]
  · have empty : part = [] := Classical.byContradiction fun more =>
      leftmost part more (List.suffix_append _ _) opens'
    rw [empty, List.append_nil]

/-- A text has one template. -/
theorem Of.unique {t u : Template} {text : List Char} (first : t.Of text) (second : u.Of text) :
    t = u := by
  obtain ⟨slots, tail⟩ := t
  obtain ⟨slots', tail'⟩ := u
  induction slots generalizing slots' text with
  | nil =>
    obtain ⟨rfl, bare⟩ := of_nil.mp first
    cases slots' with
    | nil => rw [(of_nil.mp second).1]
    | cons slot _ =>
      obtain ⟨rest, -, same, isKey, -⟩ := of_cons.mp second
      exact absurd ⟨_, rest, by rw [same, List.append_assoc]⟩ (bare _ isKey)
  | cons slot slots ih =>
    obtain ⟨rest, of, rfl, isKey, -, leftmost⟩ := of_cons.mp first
    cases slots' with
    | nil =>
      obtain ⟨same, bare⟩ := of_nil.mp second
      exact absurd ⟨_, rest, by rw [same, List.append_assoc]⟩ (bare _ isKey)
    | cons slot' slots' =>
      obtain ⟨rest', of', same, isKey', -, leftmost'⟩ := of_cons.mp second
      simp only [List.append_assoc] at leftmost leftmost'
      have literals : slot.1 = slot'.1 :=
        literal_unique same ⟨_, _, isKey, rfl⟩ ⟨_, _, isKey', rfl⟩ leftmost leftmost'
      rw [literals, List.append_cancel_left_eq] at same
      obtain ⟨keys, rfl⟩ := written_inj isKey isKey' same
      have below := ih of _ of'
      cases below
      rw [Prod.ext literals keys]

/-! ## Taking a text apart -/

def place (key : List Char) (t : Template) : Template :=
  ⟨([], key) :: t.slots, t.tail⟩

def push (c : Char) : Template → Template
  | ⟨[], tail⟩ => ⟨[], c :: tail⟩
  | ⟨(literal, key) :: slots, tail⟩ => ⟨(c :: literal, key) :: slots, tail⟩

section Steps

variable {t : Template} {text key : List Char} {c : Char} (stands : List Char → List Char)

theorem fill_place : (t.place key).fill stands = stands key ++ t.fill stands := by
  simp [place, fill]

theorem fill_push : (t.push c).fill stands = c :: t.fill stands := by
  obtain ⟨_ | ⟨_, _⟩, _⟩ := t <;> simp [push, fill]

theorem Of.place (isKey : IsKey key) (of : t.Of text) : (t.place key).Of (written key ++ text) := by
  refine of_cons.mpr ⟨text, of, rfl, isKey, fun other _ inside => ?_, fun part more inside => ?_⟩
  · cases List.infix_nil.mp inside
  · exact absurd (List.suffix_nil.mp inside) more

theorem not_bare_push {literal after : List Char} (same : text = literal ++ after)
    (bare : ∀ key, IsKey key → ¬ written key <:+: literal) (closed : ¬ Opens (c :: text)) :
    ∀ key, IsKey key → ¬ written key <:+: c :: literal := by
  intro key isKey inside
  rcases List.infix_cons_iff.mp inside with ⟨rest, here⟩ | later
  · refine closed ⟨key, rest ++ after, isKey, ?_⟩
    rw [same, ← List.cons_append, ← here, List.append_assoc]
  · exact bare key isKey later

/-- A character from which no placeholder can be read belongs to the literal behind it. -/
theorem Of.push (closed : ¬ Opens (c :: text)) (of : t.Of text) : (t.push c).Of (c :: text) := by
  obtain ⟨_ | ⟨⟨literal, key⟩, slots⟩, tail⟩ := t
  · obtain ⟨rfl, bare⟩ := of_nil.mp of
    exact of_nil.mpr ⟨rfl, not_bare_push (List.append_nil _).symm bare closed⟩
  · obtain ⟨rest, below, rfl, isKey, bare, leftmost⟩ := of_cons.mp of
    refine of_cons.mpr ⟨rest, below, rfl, isKey, not_bare_push rfl bare closed, ?_⟩
    intro part more inside
    rcases List.suffix_cons_iff.mp inside with rfl | later
    · rwa [List.append_assoc]
    · exact leftmost part more later

end Steps

theorem replacement_eq (values : Record Json) (key : List Char) :
    replacement values key = standsFor values key := by
  unfold replacement standsFor Json.given?
  split <;> split <;> simp_all [written]

theorem exists_of (text : List Char) : ∃ t : Template, t.Of text ∧
    ∀ values, interpolateChars values text = t.fill (standsFor values) := by
  -- Along the recursion of `interpolateChars`, which does not depend on the values.
  induction text using interpolateChars.induct with
  | case1 =>
    refine ⟨⟨[], []⟩, of_empty, fun values => ?_⟩
    rw [interpolateChars]
    rfl
  | case2 rest key after found ih =>
    obtain ⟨t, of, filled⟩ := ih
    refine ⟨t.place key, ?_, fun values => ?_⟩
    · rw [eq_of_placeholder? found, ← written_append]
      exact of.place (isKey_of_placeholder? found)
    · rw [interpolateChars_slot values found, replacement_eq, filled, fill_place]
  | case3 rest none_found ih =>
    obtain ⟨t, of, filled⟩ := ih
    refine ⟨t.push '\x7b', of.push (not_opens_brace none_found), fun values => ?_⟩
    rw [interpolateChars_brace values none_found, filled, fill_push]
  | case4 c rest other ih =>
    obtain ⟨t, of, filled⟩ := ih
    refine ⟨t.push c, of.push (not_opens_of_ne other), fun values => ?_⟩
    rw [interpolateChars_plain values other, filled, fill_push]

/-- A text has exactly one template, and whatever the values are, interpolation writes this one out
with what stands for each of its keys. -/
theorem interpolate_fills (text : String) : ∃ t : Template, t.Of text.toList ∧
    (∀ other : Template, other.Of text.toList → other = t) ∧
    ∀ values, interpolate text values = String.ofList (t.fill (standsFor values)) := by
  obtain ⟨t, of, filled⟩ := exists_of text.toList
  exact ⟨t, of, fun other also => also.unique of, fun values => by rw [interpolate, filled]⟩

/-! Braces that are empty, nested, and never closed, with a value that looks like a placeholder. -/

def bracedText : String := "\x7b\x7d\x7ba\x7d\x7bb\x7bc\x7d-\x7b"

def bracedTemplate : Template :=
  ⟨[("\x7b\x7d".toList, "a".toList), ([], "b\x7bc".toList)], "-\x7b".toList⟩

def bracedValues : Record Json :=
  [("a", .str "\x7bb\x7bc\x7d"), ("b\x7bc", .int 5), ("c", .int 6)]

theorem interpolate_fills_braced : bracedTemplate.Of bracedText.toList ∧
    interpolate bracedText bracedValues = "\x7b\x7d\x7bb\x7bc\x7d5-\x7b" ∧
    interpolate bracedText [("b\x7bc", .null)] = bracedText := by
  have behind : Of ⟨[], "-\x7b".toList⟩ "-\x7b".toList :=
    (of_empty.push (not_opens_brace rfl)).push (not_opens_of_ne (by decide))
  have slots := (behind.place (show IsKey "b\x7bc".toList by decide)).place
    (show IsKey "a".toList by decide)
  have own : bracedTemplate.Of bracedText.toList :=
    (slots.push (not_opens_of_ne (by decide))).push (not_opens_brace rfl)
  obtain ⟨t, -, unique, filled⟩ := interpolate_fills bracedText
  cases unique bracedTemplate own
  exact ⟨own, by rw [filled]; rfl, by rw [filled]; rfl⟩

end Template

end DeckPress.Interpolation
