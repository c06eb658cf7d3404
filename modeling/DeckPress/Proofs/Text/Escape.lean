import Mathlib.Data.List.Basic
import DeckPress.Text.Escape

/-!
What is left in an escaped text. Angle brackets and quotes are gone, whatever the text was, so it
ends where whoever wrote it wanted it to end; and reading the entities back gives the text again.
-/

namespace DeckPress.Text

theorem mem_replaceChar {x c : Char} {entity s : List Char} :
    x ∈ replaceChar c entity s ↔ x ∈ s ∧ x ≠ c ∨ c ∈ s ∧ x ∈ entity := by
  unfold replaceChar
  rw [List.mem_flatMap]
  constructor
  · rintro ⟨y, present, found⟩
    by_cases same : y = c
    · rw [if_pos same] at found
      exact Or.inr ⟨same ▸ present, found⟩
    · rw [if_neg same, List.mem_singleton] at found
      subst found
      exact Or.inl ⟨present, same⟩
  · rintro (⟨present, other⟩ | ⟨present, found⟩)
    · exact ⟨x, present, by simp [other]⟩
    · exact ⟨c, present, by simp [found]⟩

theorem not_mem_escapeChars {c : Char} (special : c ∈ ['<', '>', '"', '\'']) (s : List Char) :
    c ∉ escapeChars s := by
  simp only [List.mem_cons, List.not_mem_nil, or_false] at special
  rcases special with rfl | rfl | rfl | rfl <;>
    simp [escapeChars, entities, mem_replaceChar]

theorem escapeChars_cons (c : Char) (s : List Char) :
    escapeChars (c :: s) = escapeChars [c] ++ escapeChars s :=
  escapeChars_append [c] s

theorem escapeChars_entity {e : Char × List Char} (listed : e ∈ entities) :
    escapeChars [e.1] = e.2 := by
  simp only [entities, List.mem_cons, List.not_mem_nil, or_false] at listed
  rcases listed with rfl | rfl | rfl | rfl | rfl <;> rfl

theorem escapeChars_ordinary {c : Char} (ordinary : ∀ e ∈ entities, c ≠ e.1) :
    escapeChars [c] = [c] := by
  simp only [entities, List.forall_mem_cons] at ordinary
  simp [escapeChars, entities, replaceChar, ordinary]

theorem unescapeChars_cons {c : Char} (plain : c ≠ '&') (rest : List Char) :
    unescapeChars (c :: rest) = c :: unescapeChars rest := by
  simp [unescapeChars, plain]

/-- What stands for a character is read back as that character, whatever follows. -/
theorem unescapeChars_escaped (c : Char) (rest : List Char) :
    unescapeChars (escapeChars [c] ++ rest) = c :: unescapeChars rest := by
  by_cases special : c ∈ ['&', '<', '>', '"', '\'']
  · simp only [List.mem_cons, List.not_mem_nil, or_false] at special
    rcases special with rfl | rfl | rfl | rfl | rfl <;> rfl
  · have ordinary : ∀ e ∈ entities, c ≠ e.1 := by simpa [entities] using special
    rw [escapeChars_ordinary ordinary]
    exact unescapeChars_cons (ordinary ('&', _) (List.mem_cons_self ..)) rest

theorem unescapeChars_escapeChars (s : List Char) : unescapeChars (escapeChars s) = s := by
  induction s with
  | nil => rfl
  | cons c rest ih => rw [escapeChars_cons, unescapeChars_escaped, ih]

/-- Text as it may stand in markup: without angle brackets and quotes, and with an ampersand only
where an entity starts. -/
structure Escaped (t : List Char) : Prop where
  plain : ∀ c ∈ ['<', '>', '"', '\''], c ∉ t
  entity : ∀ after, '&' :: after <:+ t → ∃ e ∈ entities, e.2 <+: '&' :: after

theorem escaped_nil : Escaped [] where
  plain := by simp
  entity := by simp

theorem Escaped.of_suffix {s t : List Char} (escaped : Escaped t) (ending : s <:+ t) :
    Escaped s where
  plain c special here := escaped.plain c special (ending.mem here)
  entity after starts := escaped.entity after (starts.trans ending)

theorem Escaped.cons {c : Char} {t : List Char} (ordinary : ∀ e ∈ entities, c ≠ e.1)
    (escaped : Escaped t) : Escaped (c :: t) := by
  simp only [entities, List.forall_mem_cons] at ordinary
  constructor
  · intro x special
    have other : x ≠ c := by
      rintro rfl
      simp [ordinary] at special
    simp [other, escaped.plain x special]
  · intro after starts
    rcases List.suffix_cons_iff.mp starts with same | within
    · exact absurd (List.cons.inj same).1.symm ordinary.1
    · exact escaped.entity after within

theorem Escaped.entity_append {e : Char × List Char} (listed : e ∈ entities) {t : List Char}
    (escaped : Escaped t) : Escaped (e.2 ++ t) := by
  -- Behind its ampersand an entity is ordinary text.
  obtain ⟨rest, spelt, ordinary⟩ :
      ∃ rest, e.2 = '&' :: rest ∧ ∀ c ∈ rest, ∀ other ∈ entities, c ≠ other.1 := by
    simp only [entities, List.mem_cons, List.not_mem_nil, or_false] at listed
    rcases listed with rfl | rfl | rfl | rfl | rfl
    · exact ⟨"amp;".toList, rfl, by simp [entities]⟩
    · exact ⟨"lt;".toList, rfl, by simp [entities]⟩
    · exact ⟨"gt;".toList, rfl, by simp [entities]⟩
    · exact ⟨"quot;".toList, rfl, by simp [entities]⟩
    · exact ⟨"#39;".toList, rfl, by simp [entities]⟩
  have behind : Escaped (rest ++ t) := by
    clear spelt
    induction rest with
    | nil => exact escaped
    | cons c rest ih =>
      rw [List.forall_mem_cons] at ordinary
      exact (ih ordinary.2).cons ordinary.1
  constructor
  · intro c special
    have other : c ≠ '&' := by
      rintro rfl
      simp at special
    simpa [spelt, other] using behind.plain c special
  · intro after starts
    rw [spelt, List.cons_append] at starts
    rcases List.suffix_cons_iff.mp starts with same | within
    · exact ⟨e, listed, t, by rw [same, spelt, List.cons_append]⟩
    · exact behind.entity after within

theorem escaped_escapeChars (s : List Char) : Escaped (escapeChars s) := by
  induction s with
  | nil => exact escaped_nil
  | cons c rest ih =>
    rw [escapeChars_cons]
    by_cases special : ∃ e ∈ entities, c = e.1
    · obtain ⟨e, listed, rfl⟩ := special
      rw [escapeChars_entity listed]
      exact ih.entity_append listed
    · simp only [not_exists, not_and] at special
      rw [escapeChars_ordinary special]
      exact ih.cons special

theorem Escaped.ordinary {c : Char} {rest : List Char} (escaped : Escaped (c :: rest))
    (lone : ∀ e ∈ entities, ¬ e.2 <+: c :: rest) : ∀ e ∈ entities, c ≠ e.1 := by
  have noAmpersand : c ≠ '&' := by
    rintro rfl
    obtain ⟨e, listed, starts⟩ := escaped.entity rest List.suffix_rfl
    exact lone e listed starts
  have plain : c ∉ ['<', '>', '"', '\''] :=
    fun special => escaped.plain c special (List.mem_cons_self ..)
  simpa [entities, noAmpersand] using plain

theorem escapeChars_unescapeChars {t : List Char} (escaped : Escaped t) :
    escapeChars (unescapeChars t) = t := by
  fun_induction unescapeChars t with
  | case1 rest ih | case2 rest ih | case3 rest ih | case4 rest ih | case5 rest ih =>
    rw [escapeChars_cons, ih (escaped.of_suffix (by simp [List.suffix_cons_iff]))]
    rfl
  | case6 c rest amp lt gt quot apos ih =>
    have lone : ∀ e ∈ entities, ¬ e.2 <+: c :: rest := by
      simp only [entities, List.forall_mem_cons, List.not_mem_nil, false_implies, implies_true,
        and_true]
      refine ⟨?_, ?_, ?_, ?_, ?_⟩ <;> rintro ⟨more, starts⟩ <;>
        obtain ⟨rfl, follows⟩ := List.cons.inj starts
      · exact amp more rfl follows.symm
      · exact lt more rfl follows.symm
      · exact gt more rfl follows.symm
      · exact quot more rfl follows.symm
      · exact apos more rfl follows.symm
    rw [escapeChars_cons, escapeChars_ordinary (escaped.ordinary lone),
      ih (escaped.of_suffix (List.suffix_cons c rest))]
    rfl
  | case7 => rfl

/-- Escaping is a bijection from all texts onto the safe ones, and one pass of decoding undoes it. -/
theorem escape_onto_escaped :
    (∀ s : String, Escaped (escape s).toList ∧ unescapeChars (escape s).toList = s.toList) ∧
      ∀ t : String, Escaped t.toList → escape (String.ofList (unescapeChars t.toList)) = t := by
  constructor
  · intro s
    simp only [escape, String.toList_ofList]
    exact ⟨escaped_escapeChars s.toList, unescapeChars_escapeChars s.toList⟩
  · intro t escaped
    simp only [escape, String.toList_ofList]
    rw [escapeChars_unescapeChars escaped, String.ofList_toList]

/-- A text that already looks escaped is escaped once more, and decoded once only. -/
theorem escape_looks_escaped :
    unescapeChars (escape "&lt;br&#39;").toList = "&lt;br&#39;".toList ∧
      Escaped "&amp;lt;br&#39;".toList ∧
      unescapeChars "&amp;lt;br&#39;".toList = "&lt;br'".toList ∧
      escape "&lt;br'" = "&amp;lt;br&#39;" := by
  have safe : Escaped "&amp;lt;br&#39;".toList := by
    refine ⟨by simp, fun after starts => ?_⟩
    simp [List.suffix_cons_iff] at starts
    rcases starts with rfl | rfl <;> decide
  have decoded : unescapeChars "&amp;lt;br&#39;".toList = "&lt;br'".toList := by decide
  have encoded := escape_onto_escaped.2 _ safe
  rw [decoded, String.ofList_toList] at encoded
  exact ⟨(escape_onto_escaped.1 _).2, safe, decoded, encoded⟩

end DeckPress.Text
