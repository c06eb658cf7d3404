import DeckPress.Proofs.Outline.Containment
import DeckPress.Proofs.Outline.Polygon

/-!
The symmetry of the arrows, in exact numbers and on the contours that are drawn: of four arrows the
first one decides the others. A closed polygon is the same one wherever it is entered and whichever
way it goes around, and then it has the same points.
-/

namespace DeckPress

/-! ## One polygon, entered anywhere -/

/-- One polygon can be entered at another corner or drawn backwards, and becomes the other one. -/
def SamePolygon (one other : List (Point ℚ)) : Prop :=
  one ~r other ∨ one.reverse ~r other

/-- The points of the edges of a polygon, the edge back to its first corner included. -/
def OnPolygon (corners : List (Point ℚ)) (q : Point ℚ) : Prop :=
  ∃ a b rest, a :: b :: rest ~r corners ∧ OnEdge a b q

theorem OnEdge.symm {a b q : Point ℚ} (on : OnEdge a b q) : OnEdge b a q := by
  obtain ⟨t, start, stop, x, y⟩ := on
  refine ⟨1 - t, sub_nonneg.mpr stop, sub_le_self 1 start, ?_, ?_⟩
  · rw [x]
    ring
  · rw [y]
    ring

namespace OnPolygon

variable {corners others : List (Point ℚ)} {q : Point ℚ}

theorem around (on : OnPolygon corners q) (same : corners ~r others) : OnPolygon others q := by
  obtain ⟨a, b, rest, entered, edge⟩ := on
  exact ⟨a, b, rest, entered.trans same, edge⟩

theorem reverse (on : OnPolygon corners q) : OnPolygon corners.reverse q := by
  obtain ⟨a, b, rest, entered, edge⟩ := on
  -- Drawn backwards, the edge is the last one, and the polygon may be entered there.
  have backwards : (a :: b :: rest).reverse = rest.reverse ++ [b, a] := by simp
  have last : b :: a :: rest.reverse ~r corners.reverse := by
    have turned := entered.reverse
    rw [backwards] at turned
    exact List.isRotated_append.trans turned
  exact ⟨b, a, rest.reverse, last, edge.symm⟩

end OnPolygon

theorem SamePolygon.onPolygon_iff {one other : List (Point ℚ)} (same : SamePolygon one other)
    (q : Point ℚ) : OnPolygon one q ↔ OnPolygon other q := by
  rcases same with same | backwards
  · exact ⟨fun on => on.around same, fun on => on.around same.symm⟩
  · constructor
    · exact fun on => on.reverse.around backwards
    · intro on
      have front := (on.around backwards.symm).reverse
      rwa [List.reverse_reverse] at front

/-! ## Arrows -/

namespace Outline

/-- The corners of a contour of straight lines, in the order in which it comes to them. -/
def corners (segments : List (Segment ℚ)) : List (Point ℚ) :=
  segments.flatMap Segment.points

theorem corners_polygon (points : List (Point ℚ)) : corners (polygon points) = points := by
  cases points with
  | nil => rfl
  | cons first rest =>
    simp [corners, polygon, Segment.points, List.flatMap_map]

theorem arrowDown_same (w h : ℚ) (p : Measures ℚ) :
    SamePolygon (arrowDown w h p) ((arrowRight h w p).map Point.swapped) := by
  obtain ⟨start, others, right, down⟩ := arrowDown_eq_swapped w h p
  refine .inr ?_
  rw [right, down, List.reverse_cons, List.reverse_reverse]
  exact List.isRotated_append

/-- The arrows are closed polygons. To the left is the mirror image of to the right, down is that of
up, and down is to the right with the directions exchanged, drawn the other way around: both have
the same points. -/
theorem arrows_one_figure (w h : ℚ) (p : Measures ℚ) :
    (∀ family ∈ [Family.arrowRight, .arrowLeft, .arrowUp, .arrowDown],
      build family w h p = polygon (corners (build family w h p))) ∧
    corners (build .arrowLeft w h p) =
      (corners (build .arrowRight w h p)).map (Point.mirrored w) ∧
    corners (build .arrowDown w h p) =
      (corners (build .arrowUp w h p)).map (Point.upturned h) ∧
    SamePolygon (corners (build .arrowDown w h p))
      ((corners (build .arrowRight h w p)).map Point.swapped) ∧
    ∀ q, OnPolygon (corners (build .arrowDown w h p)) q ↔
      OnPolygon ((corners (build .arrowRight h w p)).map Point.swapped) q := by
  constructor
  · intro family arrow
    simp only [List.mem_cons, List.not_mem_nil, or_false] at arrow
    rcases arrow with rfl | rfl | rfl | rfl <;> rw [build, corners_polygon]
  · simp only [build, corners_polygon]
    have same := arrowDown_same w h p
    exact ⟨arrowLeft_eq w h p, arrowDown_eq w h p, same, same.onPolygon_iff⟩

end Outline

end DeckPress
