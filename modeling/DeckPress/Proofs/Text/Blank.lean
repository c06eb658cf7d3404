import Mathlib.Data.List.TakeWhile
import DeckPress.Text.Blank

/-!
Text without the blanks around it: what is left when blanks are taken away from both ends and none
is left there. There is one such text, and it does not depend on what blanks there were.
-/

namespace DeckPress.Text

/-- What is left of a text without the blanks around it. -/
structure Stripped (s bare : List Char) : Prop where
  around : ∃ before after, s = before ++ bare ++ after ∧ (∀ c ∈ before, isBlank c = true) ∧
    ∀ c ∈ after, isBlank c = true
  first : ∀ c ∈ bare.head?, isBlank c = false
  last : ∀ c ∈ bare.getLast?, isBlank c = false

variable {drop : Char → Bool} {s bare before after : List Char}

theorem trimBoth_append (leading : ∀ c ∈ before, drop c = true)
    (trailing : ∀ c ∈ after, drop c = true) :
    trimBoth drop (before ++ s ++ after) = trimBoth drop s := by
  have behind (t : List Char) : (t ++ after).reverse.dropWhile drop = t.reverse.dropWhile drop := by
    rw [List.reverse_append]
    exact List.dropWhile_append_of_pos fun x member => trailing x (List.mem_reverse.mp member)
  rw [trimBoth, trimBoth, List.append_assoc, List.dropWhile_append_of_pos leading,
    List.dropWhile_append]
  split
  next nothing =>
    have empty : (after ++ []).dropWhile drop = [] := List.dropWhile_append_of_pos trailing
    rw [List.append_nil] at empty
    rw [empty, List.isEmpty_iff.mp nothing]
  next => rw [behind]

theorem trimBoth_eq_self (first : ∀ c ∈ s.head?, drop c = false)
    (last : ∀ c ∈ s.getLast?, drop c = false) : trimBoth drop s = s := by
  have kept {t : List Char} (first : ∀ c ∈ t.head?, drop c = false) : t.dropWhile drop = t := by
    cases t with
    | nil => rfl
    | cons c rest => exact List.dropWhile_cons_of_neg (by simpa using first)
  rw [trimBoth, kept first, kept (by simpa using last), List.reverse_reverse]

theorem first_of_dropWhile (drop : Char → Bool) (s : List Char) :
    ∀ c ∈ (s.dropWhile drop).head?, drop c = false := by
  intro c first
  have stopped := List.head?_dropWhile_not drop s
  rwa [Option.mem_def.mp first] at stopped

theorem dropWhile_eq_trimBoth_append (drop : Char → Bool) (s : List Char) : s.dropWhile drop =
    trimBoth drop s ++ ((s.dropWhile drop).reverse.takeWhile drop).reverse := by
  rw [trimBoth, ← List.reverse_append, List.takeWhile_append_dropWhile, List.reverse_reverse]

theorem stripped_trimBoth (s : List Char) : Stripped s (trimBoth isBlank s) where
  around := by
    have parts := dropWhile_eq_trimBoth_append isBlank s
    refine ⟨s.takeWhile isBlank, ((s.dropWhile isBlank).reverse.takeWhile isBlank).reverse, ?_, ?_,
      ?_⟩
    · rw [List.append_assoc, ← parts, List.takeWhile_append_dropWhile]
    · exact fun c member => List.mem_takeWhile_imp member
    · exact fun c member => List.mem_takeWhile_imp (List.mem_reverse.mp member)
  first := by
    intro c first
    refine first_of_dropWhile isBlank s c ?_
    rw [dropWhile_eq_trimBoth_append, List.head?_append, Option.mem_def.mp first]
    rfl
  last := by
    intro c last
    rw [trimBoth, List.getLast?_reverse] at last
    exact first_of_dropWhile isBlank _ c last

theorem stripped_iff : Stripped s bare ↔ trimBoth isBlank s = bare := by
  constructor
  · rintro ⟨⟨before, after, rfl, leading, trailing⟩, first, last⟩
    rw [trimBoth_append leading trailing, trimBoth_eq_self first last]
  · rintro rfl
    exact stripped_trimBoth s

theorem Stripped.subset (stripped : Stripped s bare) : bare ⊆ s := by
  obtain ⟨before, after, rfl, -, -⟩ := stripped.around
  exact fun c member => List.mem_append_left after (List.mem_append_right before member)

end DeckPress.Text
