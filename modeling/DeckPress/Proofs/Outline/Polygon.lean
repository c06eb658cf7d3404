import Mathlib.Algebra.Order.Field.Rat
import Mathlib.Data.List.Rotate
import Mathlib.Data.List.Triplewise
import Mathlib.Tactic.Linarith
import Mathlib.Tactic.Ring
import DeckPress.Outline.Family

/-!
Lines and polygons through corners, in exact numbers. A polygon of which any three corners, in their
order, turn to the same side is strictly convex: it turns to that side at each corner, and its edges
have no points in common but the corners where they meet. A polygon may be entered at any corner, so
what is shown of its first edge holds of all.
-/

namespace DeckPress

/-- The cross product of the edges from `a` to `b` and from `b` to `c`. Above nought, the way turns
right on a page, where y points down. -/
def turn (a b c : Point ℚ) : ℚ :=
  (b.x - a.x) * (c.y - b.y) - (b.y - a.y) * (c.x - b.x)

theorem turn_cyclic (a b c : Point ℚ) : turn b c a = turn a b c := by
  unfold turn
  ring

/-! ## Lines -/

/-- The points between two corners, and the corners. -/
def OnEdge (a b q : Point ℚ) : Prop :=
  ∃ t, 0 ≤ t ∧ t ≤ 1 ∧ q.x = a.x + t * (b.x - a.x) ∧ q.y = a.y + t * (b.y - a.y)

/-- The edges of a line through corners, from its first to its last. -/
def edges (line : List (Point ℚ)) : List (Point ℚ × Point ℚ) :=
  line.zip line.tail

def OnLine (line : List (Point ℚ)) (q : Point ℚ) : Prop :=
  ∃ e ∈ edges line, OnEdge e.1 e.2 q

theorem onLine_three {a b c q : Point ℚ} :
    OnLine [a, b, c] q ↔ OnEdge a b q ∨ OnEdge b c q := by
  simp [OnLine, edges]

theorem lt_of_onLine {line : List (Point ℚ)} {least : ℚ} (corners : ∀ q ∈ line, least < q.x)
    {q : Point ℚ} (on : OnLine line q) : least < q.x := by
  obtain ⟨e, edge, t, start, stop, across, -⟩ := on
  obtain ⟨first, second⟩ := List.of_mem_zip edge
  have first : 0 < e.1.x - least := sub_pos.mpr (corners e.1 first)
  have second : 0 < e.2.x - least := sub_pos.mpr (corners e.2 (List.mem_of_mem_tail second))
  have even : q.x - least = (1 - t) * (e.1.x - least) + t * (e.2.x - least) := by
    rw [across]
    ring
  rcases start.eq_or_lt with rfl | inside
  · linarith
  · linarith [mul_nonneg (sub_nonneg.mpr stop) first.le, mul_pos inside second]

theorem turn_of_onEdge {a b q : Point ℚ} (on : OnEdge a b q) : turn a b q = 0 := by
  obtain ⟨t, -, -, x, y⟩ := on
  rw [turn, x, y]
  ring

/-- Along an edge, the side that it is on of another line changes evenly. -/
theorem turn_between (a b : Point ℚ) {c d q : Point ℚ} {t : ℚ} (x : q.x = c.x + t * (d.x - c.x))
    (y : q.y = c.y + t * (d.y - c.y)) :
    turn a b q = (1 - t) * turn a b c + t * turn a b d := by
  rw [turn, x, y, turn, turn]
  ring

theorem eq_start {c d q : Point ℚ} {t : ℚ} (x : q.x = c.x + t * (d.x - c.x))
    (y : q.y = c.y + t * (d.y - c.y)) (start : t = 0) : q = c := by
  obtain ⟨qx, qy⟩ := q
  simp_all

theorem eq_stop {c d q : Point ℚ} {t : ℚ} (x : q.x = c.x + t * (d.x - c.x))
    (y : q.y = c.y + t * (d.y - c.y)) (stop : t = 1) : q = d := by
  obtain ⟨qx, qy⟩ := q
  simp_all

/-! ## Polygons -/

def TurnsOneWay (corners : List (Point ℚ)) : Prop :=
  (∀ a b c rest, a :: b :: c :: rest ~r corners → 0 < turn a b c) ∨
    ∀ a b c rest, a :: b :: c :: rest ~r corners → turn a b c < 0

/-- No edge, seen from its end the way around to its start, meets another one but where both
end. -/
def Uncrossed (corners : List (Point ℚ)) : Prop :=
  ∀ a b rest, a :: b :: rest ~r corners → ∀ e ∈ edges (b :: rest ++ [a]), ∀ q, OnEdge a b q →
    OnEdge e.1 e.2 q → (q = a ∨ q = b) ∧ (q = e.1 ∨ q = e.2)

/-- Any three corners, in their order, turn right. -/
def Convex (corners : List (Point ℚ)) : Prop :=
  corners.Triplewise fun a b c => 0 < turn a b c

namespace Convex

variable {corners others : List (Point ℚ)}

theorem rotate_one {a : Point ℚ} {rest : List (Point ℚ)} (convex : Convex (a :: rest)) :
    Convex (rest ++ [a]) := by
  obtain ⟨first, later⟩ := List.triplewise_cons.mp convex
  refine List.triplewise_append.mpr ⟨later, List.triplewise_singleton a _, ?_, ?_⟩
  · exact fun b _ => List.pairwise_singleton _ _
  · rw [List.forall_mem_singleton]
    exact first.imp fun {b c} right => turn_cyclic a b c ▸ right

theorem rotate (convex : Convex corners) (n : Nat) : Convex (corners.rotate n) := by
  induction n generalizing corners with
  | zero => rwa [List.rotate_zero]
  | succ n ih =>
    cases corners with
    | nil => rwa [List.rotate_nil]
    | cons a rest =>
      rw [List.rotate_cons_succ]
      exact ih convex.rotate_one

theorem around (convex : Convex corners) (same : others ~r corners) : Convex others := by
  obtain ⟨n, rfl⟩ := same.symm
  exact convex.rotate n

theorem turnsOneWay (convex : Convex corners) : TurnsOneWay corners := by
  refine .inl fun a b c rest same => ?_
  obtain ⟨first, -⟩ := List.triplewise_cons.mp (convex.around same)
  exact (List.pairwise_cons.mp first).1 c List.mem_cons_self

theorem inner {a b : Point ℚ} {rest : List (Point ℚ)} (convex : Convex (a :: b :: rest)) :
    ∀ c ∈ rest, 0 < turn a b c :=
  (List.pairwise_cons.mp (List.triplewise_cons.mp convex).1).1

end Convex

theorem start_mem_of_mem_edges {line : List (Point ℚ)} {stop : Point ℚ} {e : Point ℚ × Point ℚ}
    (edge : e ∈ edges (line ++ [stop])) : e.1 ∈ line := by
  induction line with
  | nil => cases edge
  | cons a line ih =>
    cases line with
    | nil =>
      cases List.mem_singleton.mp edge
      exact List.mem_cons_self
    | cons b line =>
      rcases List.mem_cons.mp edge with rfl | later
      · exact List.mem_cons_self
      · exact List.mem_cons_of_mem _ (ih later)

/-- Of the ends of another edge at least one is a corner that the first edge does not have. -/
theorem ends_of_mem_edges {a b : Point ℚ} {rest : List (Point ℚ)} (more : rest ≠ [])
    {e : Point ℚ × Point ℚ} (other : e ∈ edges (b :: rest ++ [a])) :
    (e.1 ∈ rest ∧ e.2 ∈ rest) ∨ (e.1 = b ∧ e.2 ∈ rest) ∨ (e.1 ∈ rest ∧ e.2 = a) := by
  obtain ⟨next, rest, rfl⟩ := List.exists_cons_of_ne_nil more
  rcases List.mem_cons.mp other with rfl | later
  · exact .inr (.inl ⟨rfl, List.mem_cons_self⟩)
  · have start : e.1 ∈ next :: rest := start_mem_of_mem_edges later
    rcases List.mem_append.mp (List.of_mem_zip later).2 with stop | stop
    · exact .inl ⟨start, List.mem_cons_of_mem _ stop⟩
    · exact .inr (.inr ⟨start, List.mem_singleton.mp stop⟩)

theorem Convex.uncrossed {corners : List (Point ℚ)} (convex : Convex corners)
    (three : 3 ≤ corners.length) : Uncrossed corners := by
  intro a b rest same e other q own foreign
  have inner := (convex.around same).inner
  have more : rest ≠ [] := by
    rintro rfl
    have two := same.perm.length_eq
    simp at two
    omega
  have level := turn_of_onEdge own
  have starts : turn a b a = 0 := by
    rw [turn]
    ring
  have stops : turn a b b = 0 := by simp [turn]
  obtain ⟨t, least, most, x, y⟩ := foreign
  rw [turn_between a b x y] at level
  rcases ends_of_mem_edges more other with ⟨first, second⟩ | ⟨first, second⟩ | ⟨first, second⟩
  · -- Both ends are on the inner side, and so is all between them.
    have starts := mul_nonneg (sub_nonneg.mpr most) (inner e.1 first).le
    have stops := mul_nonneg least (inner e.2 second).le
    have nought : t = 0 := (mul_eq_zero.mp (by linarith)).resolve_right (inner e.2 second).ne'
    rw [nought, sub_zero, one_mul, zero_mul, add_zero] at level
    exact absurd level (inner e.1 first).ne'
  · rw [first, stops, mul_zero, zero_add] at level
    have nought : t = 0 := (mul_eq_zero.mp level).resolve_right (inner e.2 second).ne'
    have same := eq_start x y nought
    exact ⟨.inr (same.trans first), .inl same⟩
  · rw [second, starts, mul_zero, add_zero] at level
    have one : 1 - t = 0 := (mul_eq_zero.mp level).resolve_right (inner e.1 first).ne'
    have same := eq_stop x y (by linarith)
    exact ⟨.inl (same.trans second), .inr same⟩

end DeckPress
