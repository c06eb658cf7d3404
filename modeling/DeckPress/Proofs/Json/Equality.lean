import DeckPress.Json.Basic

/-!
Whether two documents are the same can be decided. Fields count in their order. Doubles are compared
as values and not as numbers: the two zeros differ, and what is no number equals itself.
-/

namespace DeckPress.Json

mutual

def same : Json → Json → Bool
  | .null, .null => true
  | .bool a, .bool b => a = b
  | .int m, .int n => m = n
  | .float x, .float y => x = y
  | .str s, .str t => s = t
  | .arr xs, .arr ys => sameItems xs ys
  | .obj xs, .obj ys => sameFields xs ys
  | _, _ => false

def sameItems : List Json → List Json → Bool
  | [], [] => true
  | x :: xs, y :: ys => same x y && sameItems xs ys
  | _, _ => false

def sameFields : List (String × Json) → List (String × Json) → Bool
  | [], [] => true
  | (name, x) :: xs, (other, y) :: ys => name = other && same x y && sameFields xs ys
  | _, _ => false

end

mutual

theorem same_iff (a b : Json) : same a b = true ↔ a = b := by
  match a with
  | .null | .bool _ | .int _ | .float _ | .str _ => cases b <;> simp [same]
  | .arr xs => cases b <;> simp [same, sameItems_iff xs]
  | .obj xs => cases b <;> simp [same, sameFields_iff xs]

theorem sameItems_iff (xs ys : List Json) : sameItems xs ys = true ↔ xs = ys := by
  match xs with
  | [] => cases ys <;> simp [sameItems]
  | x :: xs => cases ys <;> simp [sameItems, same_iff x, sameItems_iff xs]

theorem sameFields_iff (xs ys : List (String × Json)) : sameFields xs ys = true ↔ xs = ys := by
  match xs with
  | [] => cases ys <;> simp [sameFields]
  | (name, x) :: xs =>
    rcases ys with _ | ⟨⟨other, y⟩, ys⟩ <;>
      simp [sameFields, same_iff x, sameFields_iff xs]

end

instance : DecidableEq Json :=
  fun a b => decidable_of_iff (same a b = true) (same_iff a b)

end DeckPress.Json
