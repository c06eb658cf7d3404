import DeckPress.Markup.Tree
import DeckPress.Proofs.Text.Silence

/-!
What markup says. Tags and attribute names are words of their own, and what is between two of them
begins and ends at a character that is in no word, so the word for null stands in a tree only if it
stands in one of its texts.
-/

namespace DeckPress

open Text

namespace Attribute

theorem guarded_chars {a : Attribute} (silent : Silent a.value.toList) :
    Guarded (' ' :: a.chars) := by
  have name : 'N' ∉ a.name.text.toList := by
    cases a.name <;> decide
  have value : Guarded ("=\"".toList ++ escapeChars a.value.toList) :=
    guarded_cons (by decide)
      (silent_append_of_not_mem (s := ['"']) (by decide) (silent_escapeChars silent))
  refine guarded_cons (by decide) ?_
  rw [chars, List.append_assoc, List.append_assoc, ← List.append_assoc "=\"".toList]
  exact silent_append_of_not_mem name (value.append (by decide)).1

end Attribute

namespace Markup

variable {attributes : List Attribute} {children : List Markup}

theorem silent_tagChars {name : String} (plain : Silent name.toList)
    (values : ∀ a ∈ attributes, Silent a.value.toList) : Silent (tagChars name attributes) := by
  refine silent_append plain ?_
  rw [List.flatMap_def]
  refine guarded_flatten fun part member => ?_
  obtain ⟨a, present, rfl⟩ := List.mem_map.mp member
  exact Attribute.guarded_chars (values a present)

theorem guarded_element {tag : Tag} (values : ∀ a ∈ attributes, Silent a.value.toList)
    (inside : Silent (childrenChars children)) :
    Guarded (element tag attributes children).chars := by
  have name : Silent tag.name.toList := by
    cases tag <;> exact silent_of_not_mem (by decide)
  have ending : Guarded ("</".toList ++ (tag.name.toList ++ ['>'])) :=
    guarded_cons (by decide) (guarded_cons (by decide) (silent_append name (by decide))).1
  have start := guarded_cons (c := '<') (by decide) (silent_tagChars name values)
  have content := guarded_cons (c := '>') (by decide) inside
  rw [chars_element, List.append_assoc, List.append_assoc]
  exact (start.append content).append ending

theorem guarded_division {classes : String} (plain : Silent classes.toList)
    (values : ∀ a ∈ attributes, Silent a.value.toList)
    (inside : Silent (childrenChars children)) :
    Guarded (division classes attributes children).chars :=
  guarded_element (List.forall_mem_cons.mpr ⟨plain, values⟩) inside

theorem guarded_image (values : ∀ a ∈ attributes, Silent a.value.toList) :
    Guarded (image attributes).chars := by
  have name : Silent "img".toList := by decide
  have start := guarded_cons (c := '<') (by decide) (silent_tagChars name values)
  exact start.append (by decide)

theorem guarded_path (values : ∀ a ∈ attributes, Silent a.value.toList) :
    Guarded (path attributes).chars := by
  have name : Silent "path".toList := by decide
  have start := guarded_cons (c := '<') (by decide) (silent_tagChars name values)
  exact start.append (by decide)

theorem guarded_style {rules : String} (silent : Silent rules.toList) :
    Guarded (style rules).chars := by
  have body : Guarded ("<style>".toList ++ rules.toList) :=
    guarded_cons (by decide)
      (silent_append_of_not_mem (s := "style>".toList) (by decide) silent)
  exact body.append (by decide)

theorem guarded_children (each : ∀ child ∈ children, Guarded child.chars) :
    Guarded (childrenChars children) := by
  induction children with
  | nil => exact guarded_nil
  | cons child rest ih =>
    obtain ⟨first, others⟩ := List.forall_mem_cons.mp each
    exact first.append (ih others)

theorem silent_single {s : String} (silent : Silent s.toList) :
    Silent (childrenChars [text s]) :=
  silent_append (silent_escapeChars silent) guarded_nil

theorem infix_element {tag : Tag} {child : Markup} (member : child ∈ children) :
    child.chars <:+: (element tag attributes children).chars := by
  have inside : child.chars <:+: childrenChars children := by
    induction children with
    | nil => cases member
    | cons first rest ih =>
      rcases List.mem_cons.mp member with rfl | later
      · exact (List.prefix_append _ _).isInfix
      · exact (ih later).trans (List.suffix_append _ _).isInfix
  refine inside.trans ⟨'<' :: tagChars tag.name attributes ++ ['>'],
    "</".toList ++ tag.name.toList ++ ['>'], ?_⟩
  rw [chars_element]
  simp

end Markup

end DeckPress
