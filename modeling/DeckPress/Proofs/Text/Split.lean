import Mathlib.Data.List.TakeWhile
import DeckPress.Proofs.Text.Blank
import DeckPress.Text.Split

/-!
Text cut at separators, and line by line. A line ends at a line feed, at a carriage return, or at
one that a line feed follows; whoever takes nothing from an empty line may as well end a line at
each of the two characters.
-/

namespace DeckPress.Text

/-! ## The first separator -/

theorem splitFirst?_append {cut : Char → Bool} {c : Char} (here : cut c = true) {s : List Char}
    (none : ∀ x ∈ s, cut x = false) (rest : List Char) :
    splitFirst? cut (s ++ c :: rest) = some (s, rest) := by
  have dropped : (s ++ c :: rest).dropWhile (fun x => !cut x) = c :: rest := by
    rw [List.dropWhile_append_of_pos (by simpa using none),
      List.dropWhile_cons_of_neg (by simp [here])]
  have kept : (s ++ c :: rest).takeWhile (fun x => !cut x) = s := by
    rw [List.takeWhile_append_of_pos (by simpa using none),
      List.takeWhile_cons_of_neg (by simp [here]), List.append_nil]
  rw [splitFirst?, dropped, kept]

theorem splitFirst?_eq_some_iff {mark : Char} {s before after : List Char} :
    splitFirst? (· == mark) s = some (before, after) ↔
      s = before ++ mark :: after ∧ mark ∉ before := by
  constructor
  · intro found
    have parts : s.takeWhile (fun c => !(c == mark)) ++ s.dropWhile (fun c => !(c == mark)) = s :=
      List.takeWhile_append_dropWhile
    have stopped := first_of_dropWhile (fun c => !(c == mark)) s
    have apart : mark ∉ s.takeWhile fun c => !(c == mark) := by
      intro member
      simpa using List.mem_takeWhile_imp member
    unfold splitFirst? at found
    split at found
    next => cases found
    next c rest here =>
      cases found
      obtain rfl : c = mark := by simpa [here] using stopped
      rw [← here]
      exact ⟨parts.symm, apart⟩
  · rintro ⟨rfl, apart⟩
    refine splitFirst?_append (by simp) (fun x member => ?_) after
    exact beq_eq_false_iff_ne.mpr fun same => apart (same ▸ member)

/-! ## Lines -/

def endsLine (c : Char) : Bool :=
  c == '\n' || c == '\r'

def lines : List Char → List (List Char)
  | [] => []
  | '\r' :: '\n' :: rest => [] :: lines rest
  | c :: rest =>
    if endsLine c then [] :: lines rest
    else
      match lines rest with
      | [] => [[c]]
      | line :: later => (c :: line) :: later

theorem mem_of_mem_lines {s line : List Char} {c : Char} (listed : line ∈ lines s)
    (member : c ∈ line) : c ∈ s := by
  fun_induction lines s generalizing line with
  | case1 => cases listed
  | case2 rest ih =>
    rcases List.mem_cons.mp listed with rfl | later
    · cases member
    · exact List.mem_cons_of_mem _ (List.mem_cons_of_mem _ (ih later member))
  | case3 x rest _ ends ih =>
    rcases List.mem_cons.mp listed with rfl | later
    · cases member
    · exact List.mem_cons_of_mem _ (ih later member)
  | case4 x rest _ inside last ih =>
    cases List.mem_singleton.mp listed
    exact List.mem_cons.mpr (.inl (List.mem_singleton.mp member))
  | case5 x rest _ inside first others found ih =>
    rw [found] at ih
    rcases List.mem_cons.mp listed with rfl | later
    · rcases List.mem_cons.mp member with rfl | behind
      · exact List.mem_cons_self
      · exact List.mem_cons_of_mem _ (ih List.mem_cons_self behind)
    · exact List.mem_cons_of_mem _ (ih (List.mem_cons_of_mem _ later) member)

section Reading

variable {α : Type} {read? : List Char → Option α}

theorem filterMap_of_first {pieces texts : List (List Char)} (empty : read? [] = none)
    (first : pieces.head? = some (texts.headD []))
    (later : pieces.tail.filterMap read? = texts.tail.filterMap read?) :
    pieces.filterMap read? = texts.filterMap read? := by
  cases pieces with
  | nil => cases first
  | cons piece pieces =>
    obtain rfl := Option.some.inj first
    cases texts with
    | nil => simpa [empty] using later
    | cons text texts =>
      rw [List.tail_cons, List.tail_cons] at later
      rw [List.headD_cons, List.filterMap_cons, List.filterMap_cons, later]

/-- Between the two characters of one end there is a piece more, and it is empty. -/
theorem split_lines (empty : read? [] = none) (s : List Char) :
    (split endsLine s).head? = some ((lines s).headD []) ∧
      (split endsLine s).tail.filterMap read? = (lines s).tail.filterMap read? := by
  -- The first piece is kept apart, since a character before it still joins it.
  fun_induction lines s with
  | case1 => simp [split]
  | case2 rest ih =>
    have same := filterMap_of_first empty ih.1 ih.2
    have parts : split endsLine ('\r' :: '\n' :: rest) = [] :: [] :: split endsLine rest := rfl
    simp [parts, empty, same]
  | case3 x rest _ ends ih =>
    have same := filterMap_of_first empty ih.1 ih.2
    simp [split, ends, same]
  | case4 x rest _ inside last ih =>
    rw [last] at ih
    rw [split, if_neg inside]
    generalize split endsLine rest = pieces at ih ⊢
    cases pieces with
    | nil => cases ih.1
    | cons piece pieces => simpa using ih
  | case5 x rest _ inside first others found ih =>
    rw [found] at ih
    rw [split, if_neg inside]
    generalize split endsLine rest = pieces at ih ⊢
    cases pieces with
    | nil => cases ih.1
    | cons piece pieces => simpa using ih

/-- Whoever takes nothing from an empty line may end lines at each of the two characters. -/
theorem filterMap_split (empty : read? [] = none) (s : List Char) :
    (split endsLine s).filterMap read? = (lines s).filterMap read? :=
  filterMap_of_first empty (split_lines empty s).1 (split_lines empty s).2

end Reading

end DeckPress.Text
