import Mathlib.Algebra.Order.Field.Rat
import Mathlib.Tactic.Ring
import DeckPress.Outline.Family

/-!
The arrows as one figure, in exact numbers: the one that points left is a mirror image of the one
that points right, the one that points up is that of the one that points down, and the one that
points down is the one that points right, lying on its side and drawn in the other direction.
-/

namespace DeckPress

namespace Point

/-- The mirror image in a box of width `w`. -/
def mirrored (w : ℚ) (q : Point ℚ) : Point ℚ :=
  ⟨w - q.x, q.y⟩

/-- The image upside down in a box of height `h`. -/
def upturned (h : ℚ) (q : Point ℚ) : Point ℚ :=
  ⟨q.x, h - q.y⟩

def swapped (q : Point ℚ) : Point ℚ :=
  ⟨q.y, q.x⟩

end Point

namespace Outline

variable (w h : ℚ) (p : Measures ℚ)

theorem arrowLeft_eq : arrowLeft w h p = (arrowRight w h p).map (Point.mirrored w) := by
  simp [arrowLeft, arrowRight, Point.mirrored]

theorem arrowDown_eq : arrowDown w h p = (arrowUp w h p).map (Point.upturned h) := by
  simp [arrowDown, arrowUp, Point.upturned]

/-- The other direction starts at the same corner of the stem. -/
theorem arrowDown_eq_swapped : ∃ start others,
    (arrowRight h w p).map Point.swapped = start :: others ∧
      arrowDown w h p = start :: others.reverse :=
  ⟨_, _, rfl, rfl⟩

end Outline

end DeckPress
