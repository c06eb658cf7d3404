import DeckPress.Proofs.Record.Overlay
import DeckPress.Proofs.Text.Split
import DeckPress.Proofs.Trace
import DeckPress.Service.Environment

/-!
An environment that is completed by a file. What was set stays as it is, and any other name has the
value of the first line that sets it. Each line is read against an environment that the lines before
it have filled, so a second reading finds all its names set and changes nothing.
-/

namespace DeckPress.Service.Environment

open Record Text

/-! ## What a line sets -/

/-- A line that is no comment sets the name before its first equals sign to the value behind it;
blanks around the line and around both do not count, and neither may be empty. -/
def Sets (line : List Char) (name value : String) : Prop :=
  ∃ bare before after, Stripped line bare ∧ bare.head? ≠ some '#' ∧
    bare = before ++ '=' :: after ∧ '=' ∉ before ∧
    Stripped before name.toList ∧ name ≠ "" ∧ Stripped after value.toList ∧ value ≠ ""

/-- The first of some lines that sets a name sets it to the value. -/
def FirstSets (texts : List (List Char)) (name value : String) : Prop :=
  ∃ before line after, texts = before ++ line :: after ∧ Sets line name value ∧
    ∀ earlier ∈ before, ∀ other, ¬ Sets earlier name other

variable {line : List Char} {texts : List (List Char)} {name value text : String}

theorem assignment?_eq_some_iff : assignment? line = some (name, value) ↔ Sets line name value := by
  constructor
  · intro found
    simp only [assignment?] at found
    split at found
    next => cases found
    next plain =>
      split at found
      next => cases found
      next before after parts =>
        obtain ⟨written, apart⟩ := splitFirst?_eq_some_iff.mp parts
        split at found
        next => cases found
        next => cases found
        next named given =>
          cases found
          have whole (s : List Char) : Stripped s (String.ofList (trimBoth isBlank s)).toList := by
            rw [String.toList_ofList]
            exact stripped_trimBoth s
          refine ⟨_, before, after, stripped_trimBoth line, plain, written, apart, whole before, ?_,
            whole after, ?_⟩
          · exact fun empty => named (String.ofList_eq_empty_iff.mp empty)
          · exact fun empty => given (String.ofList_eq_empty_iff.mp empty)
  · rintro ⟨bare, before, after, around, plain, written, apart, named, filled, given, full⟩
    rw [stripped_iff] at around named given
    rw [assignment?, around, if_neg plain, splitFirst?_eq_some_iff.mpr ⟨written, apart⟩]
    simp only [named, given]
    split
    next empty => exact absurd (String.toList_eq_nil_iff.mp empty) filled
    next empty _ => exact absurd (String.toList_eq_nil_iff.mp empty) full
    next => rw [String.ofList_toList, String.ofList_toList]

theorem Sets.subset (sets : Sets line name value) : (name ++ value).toList ⊆ line := by
  obtain ⟨bare, before, after, around, -, rfl, -, named, -, given, -⟩ := sets
  rw [String.toList_append]
  refine List.append_subset.mpr ⟨fun c member => ?_, fun c member => ?_⟩
  · exact around.subset (List.mem_append_left _ (named.subset member))
  · exact around.subset (List.mem_append_right _ (List.mem_cons_of_mem _ (given.subset member)))

instance : Decidable (Sets line name value) :=
  decidable_of_iff _ assignment?_eq_some_iff

/-- Only the first equals sign divides a line. -/
example : Sets " PORT = 80=81 ".toList "PORT" "80=81" := by decide

theorem firstSets_cons : FirstSets (line :: texts) name value ↔
    Sets line name value ∨ (∀ other, ¬ Sets line name other) ∧ FirstSets texts name value := by
  constructor
  · rintro ⟨before, here, after, parts, own, none⟩
    cases before with
    | nil =>
      cases parts
      exact .inl own
    | cons first before =>
      cases parts
      rw [List.forall_mem_cons] at none
      exact .inr ⟨none.1, before, here, after, rfl, own, none.2⟩
  · rintro (own | ⟨none, before, here, after, rfl, own, earlier⟩)
    · exact ⟨[], line, texts, rfl, own, nofun⟩
    · exact ⟨line :: before, here, after, rfl, own, List.forall_mem_cons.mpr ⟨none, earlier⟩⟩

/-- In what lines set, a name is found where it is set first. -/
theorem get?_filterMap_assignment? :
    Record.get? (texts.filterMap assignment?) name = some value ↔ FirstSets texts name value := by
  induction texts with
  | nil => simp [FirstSets]
  | cons line texts ih =>
    simp only [List.filterMap_cons, firstSets_cons, ← assignment?_eq_some_iff, ← ih]
    cases assignment? line with
    | none => simp
    | some setting =>
      obtain ⟨first, content⟩ := setting
      by_cases same : first = name <;> simp [Record.get?, same]

theorem assignments_eq (text : String) :
    assignments text = (lines text.toList).filterMap assignment? :=
  filterMap_split (by rfl) text.toList

theorem get?_assignments : Record.get? (assignments text) name = some value ↔
    FirstSets (lines text.toList) name value := by
  rw [assignments_eq, get?_filterMap_assignment?]

instance : Decidable (FirstSets texts name value) :=
  decidable_of_iff _ get?_filterMap_assignment?

/-! ## Completing -/

section Completing

variable {environment next filled : Environment} {setting : String × String}
  {settings : List (String × String)}

/-- Neither a name nor a value holds the character that ends both. -/
def Plain (setting : String × String) : Prop :=
  Char.ofNat 0 ∉ (setting.1 ++ setting.2).toList

theorem returns_complete (environment : Environment) (plain : Plain setting) :
    Returns (environment.complete setting) := by
  unfold complete
  split
  · exact returns_ok _
  · rw [if_neg (by simpa [Plain] using plain)]
    exact returns_ok _

theorem get?_complete (done : environment.complete setting = .ok next) (name : String) :
    next.get? name = (environment.get? name).or (Record.get? [setting] name) := by
  unfold complete at done
  split at done
  next known =>
    cases done
    by_cases same : setting.1 = name
    · subst same
      obtain ⟨value, set⟩ := Option.isSome_iff_exists.mp known
      rw [set, Option.some_or]
    · simp [Record.get?, same]
  next fresh =>
    split at done
    next => cases done
    next =>
      cases done
      by_cases same : setting.1 = name
      · subst same
        have unset : environment.get? setting.1 = none := Option.not_isSome_iff_eq_none.mp fresh
        rw [get?_put_self, unset, Option.none_or]
        simp [Record.get?]
      · rw [get?_put_of_ne _ _ same]
        simp [Record.get?, same]

theorem returns_completed (plain : ∀ setting ∈ settings, Plain setting)
    (environment : Environment) : Returns (settings.foldlM complete environment) := by
  induction settings generalizing environment with
  | nil => exact returns_ok environment
  | cons setting settings ih =>
    rw [List.forall_mem_cons] at plain
    obtain ⟨next, done⟩ := returns_complete environment plain.1
    rw [List.foldlM_cons]
    exact returns_bind.mpr ⟨next, done, ih plain.2 next⟩

theorem get?_completed (done : settings.foldlM complete environment = .ok filled)
    (name : String) :
    filled.get? name = (environment.get? name).or (Record.get? settings name) := by
  induction settings generalizing environment with
  | nil =>
    cases done
    rw [get?_nil, Option.or_none]
  | cons setting settings ih =>
    rw [List.foldlM_cons] at done
    obtain ⟨next, first, rest⟩ := bind_eq_ok.mp done
    rw [ih rest, get?_complete first, Option.or_assoc, ← get?_append]
    rfl

theorem completed_of_known (known : ∀ setting ∈ settings, environment.contains setting.1 = true) :
    settings.foldlM complete environment = .ok environment := by
  induction settings with
  | nil => rfl
  | cons setting settings ih =>
    rw [List.forall_mem_cons] at known
    rw [List.foldlM_cons, complete, if_pos known.1]
    exact ih known.2

end Completing

theorem plain_assignments (plain : Char.ofNat 0 ∉ text.toList) :
    ∀ setting ∈ assignments text, Plain setting := by
  intro setting member nul
  rw [assignments_eq] at member
  obtain ⟨line, listed, read⟩ := List.mem_filterMap.mp member
  exact plain (mem_of_mem_lines listed ((assignment?_eq_some_iff.mp read).subset nul))

/-- A file without the character that ends names and values is read to its end. Afterwards every
variable that was set is as it was, any other has the value of the first line that sets it and is
unset without one, and reading the file once more changes nothing. -/
theorem load_fills_gaps (environment : Environment) (plain : Char.ofNat 0 ∉ text.toList) :
    ∃ filled, environment.load text = .ok filled ∧
      (∀ name value, environment.get? name = some value → filled.get? name = some value) ∧
      (∀ name, environment.get? name = none →
        ∀ value, filled.get? name = some value ↔ FirstSets (lines text.toList) name value) ∧
      filled.load text = .ok filled := by
  obtain ⟨filled, done⟩ := returns_completed (plain_assignments plain) environment
  have found := get?_completed done
  refine ⟨filled, done, ?_, ?_, completed_of_known ?_⟩
  · intro name value set
    rw [found, set, Option.some_or]
  · intro name unset value
    rw [found, unset, Option.none_or, get?_assignments]
  · intro setting member
    have set : (Record.get? (assignments text) setting.1).isSome = true :=
      mem_keys_iff.mp (List.mem_map_of_mem member)
    rw [contains, found, Option.isSome_or, set, Bool.or_true]

/-- A comment, a name without a value, three kinds of line ends, a value with an equals sign, a name
that is set twice, and one that is set already. -/
def mixedFile : String :=
  "# PORT=1\r\nPORT =\r\u2003PORT = 80=81 \nPORT=90\r\nHOST=here"

theorem load_fills_gaps_mixed : Char.ofNat 0 ∉ mixedFile.toList ∧
    ∃ filled, load [("HOST", "")] mixedFile = .ok filled ∧ get? filled "HOST" = some "" ∧
      get? filled "PORT" = some "80=81" ∧ get? filled "DEBUG" = none ∧
      load filled mixedFile = .ok filled := by
  have plain : Char.ofNat 0 ∉ mixedFile.toList := by decide
  obtain ⟨filled, done, kept, first, again⟩ := load_fills_gaps [("HOST", "")] plain
  refine ⟨plain, filled, done, kept "HOST" "" rfl, (first "PORT" rfl "80=81").mpr (by decide), ?_,
    again⟩
  refine Option.eq_none_iff_forall_ne_some.mpr fun value set => ?_
  have read := get?_assignments.mpr ((first "DEBUG" rfl value).mp set)
  have unread : get? (assignments mixedFile) "DEBUG" = none := by decide
  cases unread.symm.trans read

end DeckPress.Service.Environment
