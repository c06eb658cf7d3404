import Mathlib.Data.List.Forall2
import DeckPress.Text.Blank

/-!
Text that is cut where its reader stops. The reader takes one character after the other and keeps
in mind what it is inside of. A character that it does not pass ends a piece, and behind it the
reader starts again. Every piece is an item, except that nothing but blanks follows the last end.
-/

namespace DeckPress.Text

structure Cutter where
  State : Type
  start : State
  /-- What a reader keeps in mind behind a character; none where the character ends a piece. -/
  step? : State → Char → Option State

namespace Cutter

section Pieces

variable (cutter : Cutter)

/-- The pieces of a text, from where the reader stands. -/
def pieces (s : cutter.State) : List Char → List (List Char)
  | [] => [[]]
  | c :: rest =>
    match cutter.step? s c with
    | none => [] :: pieces cutter.start rest
    | some t => (pieces t rest).modifyHead (c :: ·)

/-- A reader gets from one state to another over a text. -/
def Passes (s : cutter.State) (text : List Char) (t : cutter.State) : Prop :=
  text.foldlM cutter.step? s = some t

/-- A text is a piece when a certain character comes behind it. -/
def Closes (text : List Char) (mark : Char) : Prop :=
  ∃ t, cutter.Passes cutter.start text t ∧ cutter.step? t mark = none

/-- No other character ends a piece. -/
def EndsOnly (mark : Char) : Prop :=
  ∀ s c, cutter.step? s c = none → c = mark

/-- Items are read from all pieces but the last. -/
def items? {α : Type} (item? : List Char → Option α) : List (List Char) → Option (List α)
  | [] => none
  | [rest] => if rest.all isBlank then some [] else none
  | piece :: rest => do return (← item? piece) :: (← items? item? rest)

def read? {α : Type} (item? : List Char → Option α) (text : List Char) : Option (List α) :=
  items? item? (cutter.pieces cutter.start text)

end Pieces

variable {cutter : Cutter} {α : Type} {item? : List Char → Option α} {c mark : Char}
  {text rest piece before : List Char} {s t u : cutter.State}

/-! ## Passing over text -/

theorem passes_nil : cutter.Passes s [] t ↔ s = t :=
  Option.some_inj

theorem passes_cons :
    cutter.Passes s (c :: rest) u ↔ ∃ t, cutter.step? s c = some t ∧ cutter.Passes t rest u := by
  rw [Passes, List.foldlM_cons]
  exact Option.bind_eq_some_iff

theorem passes_append : cutter.Passes s (before ++ rest) u ↔
    ∃ t, cutter.Passes s before t ∧ cutter.Passes t rest u := by
  rw [Passes, List.foldlM_append]
  exact Option.bind_eq_some_iff

theorem Passes.trans (first : cutter.Passes s before t) (second : cutter.Passes t rest u) :
    cutter.Passes s (before ++ rest) u :=
  passes_append.mpr ⟨t, first, second⟩

/-- Where a reader got to over the first part of a text does not have to be guessed. -/
theorem Passes.append_iff (first : cutter.Passes s before t) :
    cutter.Passes s (before ++ rest) u ↔ cutter.Passes t rest u := by
  rw [passes_append]
  constructor
  · rintro ⟨t', first', second⟩
    cases Option.some.inj (first.symm.trans first')
    exact second
  · exact fun second => ⟨t, first, second⟩

theorem passes_of_plain (plain : ∀ c ∈ text, cutter.step? s c = some s) :
    cutter.Passes s text s := by
  induction text with
  | nil => exact passes_nil.mpr rfl
  | cons c rest ih =>
    rw [List.forall_mem_cons] at plain
    exact passes_cons.mpr ⟨s, plain.1, ih plain.2⟩

theorem Passes.closes_iff (first : cutter.Passes cutter.start before cutter.start) :
    cutter.Closes (before ++ text) mark ↔ cutter.Closes text mark := by
  simp only [Closes, first.append_iff]

instance : Decidable (cutter.Closes text mark) :=
  decidable_of_iff
    (((text.foldlM cutter.step? cutter.start).any fun t => (cutter.step? t mark).isNone) = true) <|
    by simp [Closes, Passes, Option.any_eq_true]

/-! ## Pieces -/

theorem pieces_ne_nil (s : cutter.State) (text : List Char) : cutter.pieces s text ≠ [] := by
  induction text generalizing s with
  | nil => simp [pieces]
  | cons c rest ih =>
    unfold pieces
    split <;> simp [ih]

theorem pieces_stop (passed : cutter.Passes s piece t) (stops : cutter.step? t c = none)
    (rest : List Char) :
    cutter.pieces s (piece ++ c :: rest) = piece :: cutter.pieces cutter.start rest := by
  induction piece generalizing s with
  | nil =>
    cases passes_nil.mp passed
    simp [pieces, stops]
  | cons x more ih =>
    obtain ⟨u, first, passed⟩ := passes_cons.mp passed
    simp [pieces, first, ih passed]

theorem pieces_whole (passed : cutter.Passes s piece t) : cutter.pieces s piece = [piece] := by
  induction piece generalizing s with
  | nil => rfl
  | cons x more ih =>
    obtain ⟨u, first, passed⟩ := passes_cons.mp passed
    simp [pieces, first, ih passed]

theorem of_pieces_cons {next : List Char} {others : List (List Char)}
    (cut : cutter.pieces s text = piece :: next :: others) :
    ∃ t c rest, cutter.Passes s piece t ∧ cutter.step? t c = none ∧ text = piece ++ c :: rest ∧
      cutter.pieces cutter.start rest = next :: others := by
  induction text generalizing s piece with
  | nil => simp [pieces] at cut
  | cons c rest ih =>
    unfold pieces at cut
    split at cut
    next stops =>
      obtain ⟨same, later⟩ := List.cons.inj cut
      subst same
      exact ⟨s, c, rest, passes_nil.mpr rfl, stops, rfl, later⟩
    next u first =>
      cases later : cutter.pieces u rest with
      | nil => exact absurd later (pieces_ne_nil u rest)
      | cons inner others' =>
        rw [later, List.modifyHead_cons] at cut
        obtain ⟨rfl, rfl⟩ := List.cons.inj cut
        obtain ⟨t, d, behind, passed, stops, rfl, cut⟩ := ih later
        exact ⟨t, d, behind, passes_cons.mpr ⟨u, first, passed⟩, stops, rfl, cut⟩

theorem of_pieces_singleton (cut : cutter.pieces s text = [piece]) :
    text = piece ∧ ∃ t, cutter.Passes s text t := by
  induction text generalizing s piece with
  | nil => exact ⟨List.singleton_inj.mp cut, s, passes_nil.mpr rfl⟩
  | cons c rest ih =>
    unfold pieces at cut
    split at cut
    next => exact absurd (List.cons.inj cut).2 (pieces_ne_nil _ rest)
    next u first =>
      cases later : cutter.pieces u rest with
      | nil => exact absurd later (pieces_ne_nil u rest)
      | cons inner others =>
        rw [later, List.modifyHead_cons] at cut
        obtain ⟨rfl, rfl⟩ := List.cons.inj cut
        obtain ⟨rfl, t, passed⟩ := ih later
        exact ⟨rfl, t, passes_cons.mpr ⟨u, first, passed⟩⟩

/-! ## Items -/

theorem items?_cons {others : List (List Char)} (some_left : others ≠ []) :
    items? item? (piece :: others) =
      (do return (← item? piece) :: (← items? item? others) : Option (List α)) := by
  cases others with
  | nil => exact absurd rfl some_left
  | cons next others => rfl

theorem read?_closes (closed : cutter.Closes piece c) (rest : List Char) :
    cutter.read? item? (piece ++ c :: rest) =
      (do return (← item? piece) :: (← cutter.read? item? rest) : Option (List α)) := by
  obtain ⟨t, passed, stops⟩ := closed
  rw [read?, pieces_stop passed stops, items?_cons (pieces_ne_nil _ _)]
  rfl

theorem of_read?_cons {x : α} {xs : List α} (found : cutter.read? item? text = some (x :: xs)) :
    ∃ piece c rest, text = piece ++ c :: rest ∧ cutter.Closes piece c ∧ item? piece = some x ∧
      cutter.read? item? rest = some xs := by
  unfold read? at found
  match cut : cutter.pieces cutter.start text with
  | [] => exact absurd cut (pieces_ne_nil _ _)
  | [last] =>
    rw [cut, items?] at found
    split at found <;> cases found
  | piece :: next :: others =>
    obtain ⟨t, c, rest, passed, stops, rfl, cut'⟩ := of_pieces_cons cut
    rw [cut, items?_cons (List.cons_ne_nil _ _), ← cut'] at found
    obtain ⟨x', first, found⟩ := Option.bind_eq_some_iff.mp found
    obtain ⟨xs', others, same⟩ := Option.bind_eq_some_iff.mp found
    cases same
    exact ⟨piece, c, rest, rfl, ⟨t, passed, stops⟩, first, others⟩

theorem read?_eq_nil_iff :
    cutter.read? item? text = some [] ↔
      text.all isBlank = true ∧ ∃ t, cutter.Passes cutter.start text t := by
  constructor
  · intro found
    unfold read? at found
    match cut : cutter.pieces cutter.start text with
    | [] => exact absurd cut (pieces_ne_nil _ _)
    | [last] =>
      obtain ⟨rfl, passed⟩ := of_pieces_singleton cut
      rw [cut, items?] at found
      split at found
      next blank => exact ⟨blank, passed⟩
      next => cases found
    | piece :: next :: others =>
      rw [cut, items?_cons (List.cons_ne_nil _ _)] at found
      obtain ⟨x, -, found⟩ := Option.bind_eq_some_iff.mp found
      obtain ⟨xs, -, same⟩ := Option.bind_eq_some_iff.mp found
      cases same
  · rintro ⟨blank, t, passed⟩
    rw [read?, pieces_whole passed, items?, if_pos blank]

/-! ## Counting ends -/

/-- There are no more items than characters that could end one. -/
theorem length_le_count (only : cutter.EndsOnly mark) {xs : List α}
    (found : cutter.read? item? text = some xs) : xs.length ≤ text.count mark := by
  induction xs generalizing text with
  | nil => exact Nat.zero_le _
  | cons x xs ih =>
    obtain ⟨piece, c, rest, rfl, ⟨t, -, stops⟩, -, others⟩ := of_read?_cons found
    cases only t c stops
    have later := ih others
    rw [List.length_cons, List.count_append, List.count_cons_self]
    omega

/-- Of two ways to part a text before a character, the first part without that character is the
shorter one. -/
theorem part_of_not_mem {p q r : List Char} (same : p ++ rest = q ++ mark :: r) (apart : mark ∉ p) :
    ∃ more, q = p ++ more ∧ rest = more ++ mark :: r := by
  rcases List.append_eq_append_iff.mp same with ⟨more, rfl, behind⟩ | ⟨more, rfl, behind⟩
  · exact ⟨more, rfl, behind⟩
  · cases more with
    | nil => exact ⟨[], by simp, by simpa using behind.symm⟩
    | cons c more =>
      obtain ⟨rfl, -⟩ := List.cons.inj behind
      simp at apart

/-- When every end that could follow is needed for an item, the first end that could be is one. -/
theorem of_read?_counted (only : cutter.EndsOnly mark) {x : α} {xs : List α}
    (found : cutter.read? item? (piece ++ mark :: rest) = some (x :: xs)) (apart : mark ∉ piece)
    (needed : rest.count mark = xs.length) :
    cutter.Closes piece mark ∧ item? piece = some x ∧ cutter.read? item? rest = some xs := by
  obtain ⟨first, c, behind, same, closed, read, others⟩ := of_read?_cons found
  obtain ⟨t, passed, stops⟩ := id closed
  cases only t c stops
  obtain ⟨more, rfl, after⟩ := part_of_not_mem same apart
  cases more with
  | nil =>
    obtain ⟨-, rfl⟩ := List.cons.inj after
    rw [List.append_nil] at closed read
    exact ⟨closed, read, others⟩
  | cons d more =>
    have inside : rest = more ++ mark :: behind := (List.cons.inj after).2
    have bound := length_le_count only others
    rw [inside, List.count_append, List.count_cons_self] at needed
    omega

/-- Pieces with an end behind each of them, and what follows the last one. -/
def joined (mark : Char) (pieces : List (List Char)) (rest : List Char) : List Char :=
  pieces.flatMap (· ++ [mark]) ++ rest

theorem joined_cons (mark : Char) (piece : List Char) (pieces : List (List Char))
    (rest : List Char) :
    joined mark (piece :: pieces) rest = piece ++ mark :: joined mark pieces rest := by
  simp [joined]

theorem count_joined {pieces : List (List Char)} (apart : ∀ piece ∈ pieces, mark ∉ piece)
    (behind : mark ∉ rest) : (joined mark pieces rest).count mark = pieces.length := by
  induction pieces with
  | nil => simpa [joined] using List.count_eq_zero.mpr behind
  | cons piece pieces ih =>
    rw [List.forall_mem_cons] at apart
    rw [joined_cons, List.count_append, List.count_cons_self, ih apart.2,
      List.count_eq_zero.mpr apart.1, List.length_cons]
    omega

/-- As many items as there are pieces are read exactly when each piece is read as one of them. -/
theorem read?_joined_iff (only : cutter.EndsOnly mark) {pieces : List (List Char)} {xs : List α}
    (apart : ∀ piece ∈ pieces, mark ∉ piece) (behind : mark ∉ rest)
    (blank : cutter.read? item? rest = some []) :
    cutter.read? item? (joined mark pieces rest) = some xs ∧ xs.length = pieces.length ↔
      List.Forall₂ (fun piece x => cutter.Closes piece mark ∧ item? piece = some x) pieces xs := by
  induction pieces generalizing xs with
  | nil =>
    rw [List.forall₂_nil_left_iff, List.length_nil, List.length_eq_zero_iff]
    simp only [joined, List.flatMap_nil, List.nil_append, blank, Option.some_inj, eq_comm, and_self]
  | cons piece pieces ih =>
    rw [List.forall_mem_cons] at apart
    constructor
    · rintro ⟨found, length⟩
      cases xs with
      | nil => cases length
      | cons x xs =>
        rw [List.length_cons, List.length_cons, Nat.add_right_cancel_iff] at length
        rw [joined_cons] at found
        have needed := (count_joined apart.2 behind).trans length.symm
        obtain ⟨closed, read, others⟩ := of_read?_counted only found apart.1 needed
        exact .cons ⟨closed, read⟩ ((ih apart.2).mp ⟨others, length⟩)
    · intro each
      obtain ⟨x, xs, ⟨closed, read⟩, others, rfl⟩ := List.forall₂_cons_left_iff.mp each
      obtain ⟨found, length⟩ := (ih apart.2).mpr others
      rw [joined_cons, read?_closes closed, read, found, List.length_cons, List.length_cons, length]
      exact ⟨rfl, rfl⟩

end Cutter

end DeckPress.Text
