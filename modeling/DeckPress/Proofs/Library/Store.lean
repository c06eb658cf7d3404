import Mathlib.Data.List.Nodup
import Mathlib.Data.List.Pairwise
import DeckPress.Library.Store
import DeckPress.Proofs.Record.Overlay
import DeckPress.Proofs.Trace

/-!
What a library finds. From files to names and from a name back to its file are inverse ways, but
for the file that is called nothing but the ending: it is listed under that very name and looked for
in another file. Apart from it, a lookup finds nothing exactly where there is no file, and what a
file holds is a deck or refused as none, when its text can be read to an end.
-/

namespace DeckPress.Library

open Record Store

/-- A directory as file systems have them: its entries have names of their own, and no slash. -/
structure Directory.Proper (directory : Directory) : Prop where
  distinct : Distinct directory
  plain : ∀ file ∈ keys directory, '/' ∉ file.toList

/-! ## Names and files -/

section Names

variable {directory : Directory} {file other name : String}

theorem toList_fileOf (name : String) : (fileOf name).toList = name.toList ++ ending :=
  String.toList_append

theorem fileOf_inj : fileOf name = fileOf other ↔ name = other :=
  String.append_left_inj ".json"

theorem fileOf_eq_bare : fileOf name = ".json" ↔ name = "" := by
  have unnamed : ".json" = fileOf "" := rfl
  rw [unnamed, fileOf_inj]

theorem deckName?_eq_some_iff : deckName? file = some name ↔
    (file = ".json" ∧ name = ".json") ∨ (name ≠ "" ∧ file = fileOf name) := by
  have whole : file.toList = ending ↔ file = ".json" := String.toList_inj
  unfold deckName?
  by_cases bare : file = ".json"
  · rw [if_pos (whole.mpr bare), Option.some_inj, bare]
    constructor
    · exact fun same => .inl ⟨rfl, same.symm⟩
    · rintro (⟨-, same⟩ | ⟨filled, same⟩)
      · exact same.symm
      · exact absurd (fileOf_eq_bare.mp same.symm) filled
  · rw [if_neg (mt whole.mp bare)]
    split
    next ends =>
      -- Without the ending something is left, for the file is not called like it.
      have parts := List.suffix_iff_eq_append.mp (List.isSuffixOf_iff_suffix.mp ends)
      generalize file.toList.take (file.toList.length - ending.length) = stem at parts ⊢
      obtain rfl : fileOf (String.ofList stem) = file := by
        rw [← String.toList_inj, toList_fileOf, String.toList_ofList, parts]
      rw [Option.some_inj, fileOf_inj]
      constructor
      · rintro rfl
        exact .inr ⟨fun empty => bare (empty ▸ rfl), rfl⟩
      · rintro (⟨same, -⟩ | ⟨-, same⟩)
        · exact absurd same bare
        · exact same
    next other =>
      constructor
      · nofun
      · rintro (⟨same, -⟩ | ⟨-, rfl⟩)
        · exact absurd same bare
        · rw [toList_fileOf, List.isSuffixOf_iff_suffix] at other
          exact absurd (List.suffix_append _ _) other

theorem mem_namesIn : name ∈ namesIn directory ↔
    (name = ".json" ∧ ".json" ∈ keys directory) ∨ (name ≠ "" ∧ fileOf name ∈ keys directory) := by
  rw [namesIn, List.mem_mergeSort, List.mem_filterMap]
  constructor
  · rintro ⟨file, member, named⟩
    rcases deckName?_eq_some_iff.mp named with ⟨rfl, rfl⟩ | ⟨filled, rfl⟩
    · exact .inl ⟨rfl, member⟩
    · exact .inr ⟨filled, member⟩
  · rintro (⟨rfl, member⟩ | ⟨filled, member⟩)
    · exact ⟨_, member, deckName?_eq_some_iff.mpr (.inl ⟨rfl, rfl⟩)⟩
    · exact ⟨_, member, deckName?_eq_some_iff.mpr (.inr ⟨filled, rfl⟩)⟩

/-- Two files of one name are the bare ending and the file that is looked for under its name. -/
theorem bare_of_deckName? (apart : file ≠ other) (first : deckName? file = some name)
    (second : deckName? other = some name) :
    (file = ".json" ∧ other = fileOf ".json") ∨ (file = fileOf ".json" ∧ other = ".json") := by
  rcases deckName?_eq_some_iff.mp first with ⟨rfl, rfl⟩ | ⟨-, rfl⟩ <;>
    rcases deckName?_eq_some_iff.mp second with ⟨rfl, same⟩ | ⟨-, rfl⟩
  · exact absurd rfl apart
  · exact .inl ⟨rfl, rfl⟩
  · exact .inr ⟨congrArg fileOf same, rfl⟩
  · exact absurd rfl apart

theorem nodup_namesIn_iff (distinct : Distinct directory) : (namesIn directory).Nodup ↔
    ¬ (".json" ∈ keys directory ∧ fileOf ".json" ∈ keys directory) := by
  rw [namesIn, (List.mergeSort_perm _ _).nodup_iff, List.nodup_iff_pairwise_ne,
    List.pairwise_filterMap]
  constructor
  · rintro apart ⟨bare, doubled⟩
    have symmetric : Std.Symm fun a b => ∀ x, deckName? a = some x → ∀ y, deckName? b = some y →
        x ≠ y := ⟨fun a b apart x first y second same => apart y second x first same.symm⟩
    exact apart.forall bare doubled (by decide) ".json" rfl ".json" (by decide) rfl
  · intro alone
    refine distinct.pairwise_of_forall_ne fun a here b there apart x first y second same => ?_
    subst same
    rcases bare_of_deckName? apart first second with ⟨rfl, rfl⟩ | ⟨rfl, rfl⟩
    · exact alone ⟨here, there⟩
    · exact alone ⟨there, here⟩

theorem ascending_namesIn_iff (distinct : Distinct directory) :
    (namesIn directory).Pairwise (· < ·) ↔
      ¬ (".json" ∈ keys directory ∧ fileOf ".json" ∈ keys directory) := by
  rw [← nodup_namesIn_iff distinct]
  constructor
  · exact fun ascending => ascending.imp String.ne_of_lt
  · intro apart
    have sorted : (namesIn directory).Pairwise fun a b => decide (a ≤ b) = true := by
      refine List.pairwise_mergeSort ?_ ?_ _
      · intro a b c first second
        exact decide_eq_true (String.le_trans (of_decide_eq_true first) (of_decide_eq_true second))
      · intro a b
        simpa using String.le_total a b
    refine sorted.imp₂ ?_ apart
    intro a b least other
    exact String.not_le.mp fun most =>
      other (String.le_antisymm (of_decide_eq_true least) most)

end Names

/-! ## Lookups -/

/-- What stands under a name can be read to an end: it is a file, and nothing but its grammar keeps
its text from being a document, neither the length of a number nor the depth of its nesting. -/
def Entry.Readable : Entry → Prop
  | .file text => ∀ e, Json.read text = .error e → e = .malformed
  | .directory => False

/-- A lookup that came to a deck, or to a refusal of what the file of the name holds. -/
def Settled (name : String) (x : Except ReadError (Option (Record Json))) : Prop :=
  (∃ deck, x = .ok (some deck)) ∨ x = .error (.notJson name) ∨ x = .error (.notDeck name)

theorem settled_readDeck_iff {directory : Directory} {name : String} {entry : Entry}
    (found : Record.get? directory (fileOf name) = some entry) :
    Settled name ((readDeck directory name).map some) ↔ entry.Readable := by
  rw [readDeck, found]
  cases entry with
  | directory => simp [Settled, Except.map, Entry.Readable]
  | file text =>
    simp only [Entry.Readable]
    generalize Json.read text = document
    cases document with
    | error e => cases e <;> simp [Settled, Except.map]
    | ok document => cases document <;> simp [Settled, Except.map]

namespace Store

/-- What a library holds; one that is not there holds nothing. -/
def files (store : Store) : Directory :=
  store.directory?.getD []

/-- What lookups of a name promise: nothing is found exactly where there is no file of the name, and
otherwise a deck, unless what the file holds is refused. -/
structure Finds (store : Store) (name : String) : Prop where
  nothing : (store.get? name).outcome = .ok none ↔ fileOf name ∉ keys store.files
  something : fileOf name ∈ keys store.files → Settled name (store.get? name).outcome

/-- The names for which lookups go right. The file that is called like the ending would be that of
the empty name, which is never listed; under its own name it is looked for in another file. -/
structure Regular (store : Store) (name : String) : Prop where
  filled : name = "" → ".json" ∉ keys store.files
  own : name = ".json" → ".json" ∈ keys store.files → fileOf ".json" ∈ keys store.files
  readable : ∀ entry, Record.get? store.files (fileOf name) = some entry → entry.Readable

/-- A lookup that has to find a deck fails where one that need not finds nothing, and is the same
elsewhere. -/
structure Insists (store : Store) (name : String) : Prop where
  deck : ∀ deck, (store.get name).outcome = .ok deck ↔ (store.get? name).outcome = .ok (some deck)
  unknown : ∀ other, (store.get name).outcome = .error (.unknown other) ↔
    other = name ∧ (store.get? name).outcome = .ok none
  unreadable : ∀ cause, (store.get name).outcome = .error (.unreadable cause) ↔
    (store.get? name).outcome = .error cause

variable {store : Store} {name : String}

theorem outcome_names {ε : Type} (store : Store) :
    (store.names : Trace ε (List String)).outcome = .ok (namesIn store.files) := by
  unfold names files
  cases store.directory? with
  | some directory => rfl
  | none =>
    have nothing : namesIn [] = [] := by simp [namesIn, keys]
    rw [Option.getD_none, nothing]
    rfl

theorem outcome_get? (store : Store) (name : String) : (store.get? name).outcome =
    if name ∈ namesIn store.files then (readDeck store.files name).map some else .ok none := by
  rw [Store.get?, Trace.outcome_bind, outcome_names, ← files]
  change (ite _ _ _ : Trace _ _).outcome = _
  split
  · rw [Trace.outcome_bind, Trace.outcome_quiet]
    cases readDeck store.files name <;> rfl
  · rfl

theorem get?_of_present (filled : name ≠ "") (present : fileOf name ∈ keys store.files) :
    (store.get? name).outcome = (readDeck store.files name).map some := by
  rw [outcome_get?, if_pos (mem_namesIn.mpr (.inr ⟨filled, present⟩))]

theorem get?_empty (store : Store) : (store.get? "").outcome = .ok none := by
  have unlisted : "" ∉ namesIn store.files := by
    simp [mem_namesIn]
  rw [outcome_get?, if_neg unlisted]

theorem get?_of_absent (absent : fileOf name ∉ keys store.files) :
    (store.get? name).outcome = .ok none ↔ ¬ (name = ".json" ∧ ".json" ∈ keys store.files) := by
  have listed : name ∈ namesIn store.files ↔ name = ".json" ∧ ".json" ∈ keys store.files := by
    simp [mem_namesIn, absent]
  have gone : Record.get? store.files (fileOf name) = none :=
    Option.not_isSome_iff_eq_none.mp (mt mem_keys_iff.mpr absent)
  rw [outcome_get?, ← listed]
  split
  next present => simp [readDeck, gone, present, Except.map]
  next missed => simp [missed]

theorem finds_iff_of_present (filled : name ≠ "") {entry : Entry}
    (found : Record.get? store.files (fileOf name) = some entry) :
    store.Finds name ↔ entry.Readable := by
  have present : fileOf name ∈ keys store.files := mem_keys_iff.mpr (found ▸ rfl)
  have outcome := get?_of_present filled present
  have settled : Settled name (store.get? name).outcome ↔ entry.Readable := by
    rw [outcome, settled_readDeck_iff found]
  have something : (store.get? name).outcome ≠ .ok none := by
    rw [outcome]
    cases readDeck store.files name <;> simp [Except.map]
  constructor
  · exact fun finds => settled.mp (finds.something present)
  · exact fun readable =>
      ⟨iff_of_false something (not_not.mpr present), fun _ => settled.mpr readable⟩

theorem finds_iff_of_absent (absent : fileOf name ∉ keys store.files) :
    store.Finds name ↔ ¬ (name = ".json" ∧ ".json" ∈ keys store.files) := by
  rw [← get?_of_absent absent]
  constructor
  · exact fun finds => finds.nothing.mpr absent
  · exact fun nothing => ⟨iff_of_true nothing absent, fun present => absurd present absent⟩

theorem finds_iff_regular (store : Store) (name : String) :
    store.Finds name ↔ store.Regular name := by
  by_cases present : fileOf name ∈ keys store.files
  · obtain ⟨entry, found⟩ := Option.isSome_iff_exists.mp (mem_keys_iff.mp present)
    by_cases empty : name = ""
    · subst empty
      refine iff_of_false ?_ ?_
      · exact fun finds => finds.nothing.mp (get?_empty store) present
      · exact fun regular => regular.filled rfl present
    · rw [finds_iff_of_present empty found]
      constructor
      · intro readable
        refine ⟨fun same => absurd same empty, ?_, ?_⟩
        · rintro rfl -
          exact present
        · intro other same
          cases found.symm.trans same
          exact readable
      · exact fun regular => regular.readable entry found
  · rw [finds_iff_of_absent present]
    constructor
    · intro lone
      refine ⟨?_, fun same bare => absurd ⟨same, bare⟩ lone, fun entry found => ?_⟩
      · rintro rfl
        exact present
      · exact absurd (mem_keys_iff.mpr (found ▸ rfl)) present
    · rintro regular ⟨rfl, bare⟩
      exact present (regular.own rfl bare)

theorem insists (store : Store) (name : String) : store.Insists name := by
  have outcome : (store.get name).outcome =
      ((store.get? name).outcome.mapError .unreadable).bind fun found =>
        found.elim (.error (.unknown name)) .ok := by
    rw [Store.get, Trace.outcome_bind, Trace.outcome_mapError]
    congr
    funext found
    cases found <;> rfl
  cases found : (store.get? name).outcome with
  | error e =>
    have failed : (store.get name).outcome = .error (.unreadable e) := by
      rw [outcome, found]
      rfl
    constructor <;> simp [failed, found]
  | ok answer =>
    cases answer with
    | none =>
      have missed : (store.get name).outcome = .error (.unknown name) := by
        rw [outcome, found]
        rfl
      constructor <;> simp [missed, found, eq_comm]
    | some deck =>
      have same : (store.get name).outcome = .ok deck := by
        rw [outcome, found]
        rfl
      constructor <;> simp [same, found]

theorem get?_of_slash (plain : ∀ file ∈ keys store.files, '/' ∉ file.toList)
    (slash : '/' ∈ name.toList) : (store.get? name).outcome = .ok none := by
  have absent : fileOf name ∉ keys store.files := by
    intro present
    refine plain _ present ?_
    rw [toList_fileOf]
    exact List.mem_append_left _ slash
  refine (get?_of_absent absent).mpr ?_
  rintro ⟨rfl, -⟩
  exact absurd slash (by decide)

/-- The names of a library are those of its files, in order and once each, unless there is both the
file that is called like the ending and the one that is looked for in its place. Lookups keep what
they promise exactly for regular names, those that must find a deck no less than those that need
not, and a name with a slash leads nowhere. -/
theorem finds_iff {store : Store} (proper : store.files.Proper) :
    (∃ listed, (store.names : Trace ReadError (List String)).outcome = .ok listed ∧
      (∀ name, name ∈ listed ↔ (name = ".json" ∧ ".json" ∈ keys store.files) ∨
        (name ≠ "" ∧ fileOf name ∈ keys store.files)) ∧
      (listed.Pairwise (· < ·) ↔
        ¬ (".json" ∈ keys store.files ∧ fileOf ".json" ∈ keys store.files))) ∧
    ∀ name, (store.Finds name ↔ store.Regular name) ∧ store.Insists name ∧
      ('/' ∈ name.toList → (store.get? name).outcome = .ok none) := by
  constructor
  · exact ⟨_, outcome_names store, fun name => mem_namesIn, ascending_namesIn_iff proper.distinct⟩
  · exact fun name =>
      ⟨finds_iff_regular store name, insists store name, get?_of_slash proper.plain⟩

def holding (directory : Directory) : Store :=
  { place := "library", directory? := some directory }

/-- A deck in a hidden file, a text that is no document, a directory, and a file that is called like
the ending. -/
def mixedStore : Store :=
  holding [(".hidden.json", .file "\x7b\x7d"), ("a.b.json", .file "["), ("d.json", .directory),
    (".json", .file "\x7b\x7d")]

theorem finds_iff_mixed : mixedStore.files.Proper ∧
    (∃ listed, (mixedStore.names : Trace ReadError (List String)).outcome = .ok listed ∧
      listed.Pairwise (· < ·)) ∧
    mixedStore.Finds ".hidden" ∧ mixedStore.Finds "a.b" ∧ ¬ mixedStore.Finds "d" ∧
    (mixedStore.get "nope").outcome = .error (.unknown "nope") ∧
    (mixedStore.get? "../library/a.b").outcome = .ok none := by
  have proper : mixedStore.files.Proper := ⟨by unfold Distinct; decide, by decide⟩
  obtain ⟨⟨listed, named, -, ascending⟩, found⟩ := finds_iff proper
  have hidden : mixedStore.Regular ".hidden" := by
    refine ⟨nofun, nofun, fun entry here => ?_⟩
    cases here
    have document : Json.read "\x7b\x7d" = .ok (.obj []) := rfl
    exact fun e failed => nomatch document.symm.trans failed
  have dotted : mixedStore.Regular "a.b" := by
    refine ⟨nofun, nofun, fun entry here => ?_⟩
    cases here
    have broken : Json.read "[" = .error .malformed := rfl
    exact fun e failed => (Except.error.inj (broken.symm.trans failed)).symm
  have unknown : mixedStore.Finds "nope" := (found "nope").1.mpr ⟨nofun, nofun, nofun⟩
  refine ⟨proper, ⟨listed, named, ascending.mpr (by decide)⟩, (found ".hidden").1.mpr hidden,
    (found "a.b").1.mpr dotted, ?_, ?_, (found "../library/a.b").2.2 (by decide)⟩
  · exact fun finds => ((found "d").1.mp finds).readable .directory rfl
  · exact ((found "nope").2.1.unknown "nope").mpr ⟨rfl, unknown.nothing.mpr (by decide)⟩

/-- A file that is called like the ending is listed and then looked for in another one, and with
that one it is listed twice. A directory may be listed, too. -/
theorem not_finds_bare : ¬ (holding [(".json", .file "\x7b\x7d")]).Finds ".json" ∧
    ¬ (holding [("d.json", .directory)]).Finds "d" ∧
    ∃ listed, ((holding [(".json", .file "\x7b\x7d"), (".json.json", .file "\x7b\x7d")]).names :
      Trace ReadError (List String)).outcome = .ok listed ∧ ¬ listed.Pairwise (· < ·) := by
  refine ⟨?_, ?_, _, outcome_names _, ?_⟩
  · rw [finds_iff_regular]
    exact fun regular => absurd (regular.own rfl (by decide)) (by decide)
  · rw [finds_iff_regular]
    exact fun regular => regular.readable .directory rfl
  · rw [ascending_namesIn_iff (by unfold Distinct; decide)]
    decide

end Store

end DeckPress.Library
