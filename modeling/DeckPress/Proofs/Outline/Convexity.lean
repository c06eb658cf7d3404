import Mathlib.Tactic.CasesM
import Mathlib.Tactic.NormNum
import DeckPress.Proofs.Drawing.Measures
import DeckPress.Proofs.Outline.Containment
import DeckPress.Proofs.Outline.Polygon

/-!
Outlines with straight edges inside their margin, in exact numbers. Four of the five families are
fixed polygons that are stretched over what the margin leaves of the box, so they stay convex at
every size. The pentagon is not one of them: its shoulders are at a fixed part of the height and its
foot is drawn in by twice the margin, and a margin that others bear makes it cross itself.
-/

namespace DeckPress

/-- In the box and no nearer to its sides than the margin. -/
def Point.Inset (margin w h : ℚ) (q : Point ℚ) : Prop :=
  margin ≤ q.x ∧ q.x ≤ w - margin ∧ margin ≤ q.y ∧ q.y ≤ h - margin

/-- A polygon inside the margin that turns one way and does not cross itself. -/
structure Unfolded (margin w h : ℚ) (corners : List (Point ℚ)) : Prop where
  inset : ∀ q ∈ corners, q.Inset margin w h
  turns : TurnsOneWay corners
  uncrossed : Uncrossed corners

theorem Convex.unfolded {margin w h : ℚ} {corners : List (Point ℚ)} (convex : Convex corners)
    (three : 3 ≤ corners.length) (inset : ∀ q ∈ corners, q.Inset margin w h) :
    Unfolded margin w h corners :=
  ⟨inset, convex.turnsOneWay, convex.uncrossed three⟩

/-! ## Stretched polygons -/

namespace Point

/-- A point of the unit square, in what the margin leaves of a box. -/
def stretched (margin w h : ℚ) (q : Point ℚ) : Point ℚ :=
  ⟨margin + (w - 2 * margin) * q.x, margin + (h - 2 * margin) * q.y⟩

variable {margin w h : ℚ} {q : Point ℚ}

theorem inset_stretched (across : 2 * margin < w) (down : 2 * margin < h) (unit : q.InBox 1 1) :
    (q.stretched margin w h).Inset margin w h := by
  obtain ⟨left, right, top, bottom⟩ := unit
  have wide : 0 < w - 2 * margin := sub_pos.mpr across
  have high : 0 < h - 2 * margin := sub_pos.mpr down
  have start := mul_nonneg wide.le left
  have stop := mul_le_of_le_one_right wide.le right
  have head := mul_nonneg high.le top
  have foot := mul_le_of_le_one_right high.le bottom
  refine ⟨?_, ?_, ?_, ?_⟩ <;> simp only [stretched] <;> linarith

end Point

theorem turn_stretched (margin w h : ℚ) (a b c : Point ℚ) :
    turn (a.stretched margin w h) (b.stretched margin w h) (c.stretched margin w h) =
      (w - 2 * margin) * (h - 2 * margin) * turn a b c := by
  unfold turn Point.stretched
  ring

theorem Convex.stretched {margin w h : ℚ} {corners : List (Point ℚ)} (convex : Convex corners)
    (across : 2 * margin < w) (down : 2 * margin < h) :
    Convex (corners.map (Point.stretched margin w h)) := by
  refine List.Triplewise.map ?_ convex
  intro a b c right
  rw [turn_stretched]
  exact mul_pos (mul_pos (sub_pos.mpr across) (sub_pos.mpr down)) right

theorem Convex.unfolded_stretched {margin w h : ℚ} {corners : List (Point ℚ)}
    (convex : Convex corners) (three : 3 ≤ corners.length) (unit : ∀ q ∈ corners, q.InBox 1 1)
    (across : 2 * margin < w) (down : 2 * margin < h) :
    Unfolded margin w h (corners.map (Point.stretched margin w h)) := by
  refine (convex.stretched across down).unfolded ?_ ?_
  · rwa [List.length_map]
  · exact List.forall_mem_map.mpr fun q own => Point.inset_stretched across down (unit q own)

namespace Outline

variable (w h : ℚ) (p : Measures ℚ)

theorem rectangle_eq_stretched : rectangle w h p =
    [⟨0, 0⟩, ⟨1, 0⟩, ⟨1, 1⟩, ⟨0, 1⟩].map (Point.stretched p.margin w h) := by
  simp only [rectangle, Point.stretched, List.map, List.cons.injEq, Point.mk.injEq, and_true]
  constructorm* _ ∧ _ <;> linarith

theorem diamond_eq_stretched : diamond w h p =
    [⟨1 / 2, 0⟩, ⟨1, 1 / 2⟩, ⟨1 / 2, 1⟩, ⟨0, 1 / 2⟩].map (Point.stretched p.margin w h) := by
  simp only [diamond, Point.stretched, List.map, List.cons.injEq, Point.mk.injEq, and_true]
  constructorm* _ ∧ _ <;> linarith

theorem triangle_eq_stretched : triangle w h p =
    [⟨1 / 2, 0⟩, ⟨1, 1⟩, ⟨0, 1⟩].map (Point.stretched p.margin w h) := by
  simp only [triangle, Point.stretched, List.map, List.cons.injEq, Point.mk.injEq, and_true]
  constructorm* _ ∧ _ <;> linarith

theorem hexagon_eq_stretched : hexagon w h p =
    [⟨1 / 4, 0⟩, ⟨3 / 4, 0⟩, ⟨1, 1 / 2⟩, ⟨3 / 4, 1⟩, ⟨1 / 4, 1⟩, ⟨0, 1 / 2⟩].map
      (Point.stretched p.margin w h) := by
  simp only [hexagon, Point.stretched, List.map, List.cons.injEq, Point.mk.injEq, and_true]
  constructorm* _ ∧ _ <;> linarith

/-- Four of the families that only a margin shapes are stretched from the unit square. -/
theorem exists_stretched {family : Family}
    (plain : family ∈ [.rectangle, .diamond, .triangle, .hexagon]) :
    ∃ corners : List (Point ℚ), Convex corners ∧ 3 ≤ corners.length ∧
      (∀ q ∈ corners, q.InBox 1 1) ∧
      ∀ w h p, build family w h p = polygon (corners.map (Point.stretched p.margin w h)) := by
  simp only [List.mem_cons, List.not_mem_nil, or_false] at plain
  rcases plain with rfl | rfl | rfl | rfl
  · refine ⟨_, ?_, ?_, ?_, fun w h p => congrArg polygon (rectangle_eq_stretched w h p)⟩ <;>
      norm_num [Convex, List.triplewise_cons, List.pairwise_cons, turn, Point.InBox]
  · refine ⟨_, ?_, ?_, ?_, fun w h p => congrArg polygon (diamond_eq_stretched w h p)⟩ <;>
      norm_num [Convex, List.triplewise_cons, List.pairwise_cons, turn, Point.InBox]
  · refine ⟨_, ?_, ?_, ?_, fun w h p => congrArg polygon (triangle_eq_stretched w h p)⟩ <;>
      norm_num [Convex, List.triplewise_cons, List.pairwise_cons, turn, Point.InBox]
  · refine ⟨_, ?_, ?_, ?_, fun w h p => congrArg polygon (hexagon_eq_stretched w h p)⟩ <;>
      norm_num [Convex, List.triplewise_cons, List.pairwise_cons, turn, Point.InBox]

/-! ## The pentagon -/

variable {w h p}

/-- Any three corners of the pentagon span an area that is a sum of products of these lengths. -/
theorem convex_pentagon (least : 0 ≤ p.margin) (across : 2 * p.margin < w)
    (shoulder : p.margin < 0.38 * h) (foot : 4 * p.margin < w) : Convex (pentagon w h p) := by
  have half : 0 < w / 2 - p.margin := by linarith
  have above : 0 < 0.38 * h - p.margin := by linarith
  have below : 0 < 0.62 * h - p.margin := by linarith
  have base : 0 < w - 4 * p.margin := by linarith
  have roof := mul_pos half above
  have wall := mul_pos half below
  have upper := mul_nonneg least above.le
  have lower := mul_nonneg least below.le
  have front := mul_pos above base
  have floor := mul_pos below base
  simp only [Convex, pentagon, List.triplewise_cons, List.pairwise_cons, List.forall_mem_cons,
    List.not_mem_nil, IsEmpty.forall_iff, implies_true, and_true, List.Pairwise.nil,
    List.Triplewise.nil, turn]
  constructorm* _ ∧ _ <;> linarith

theorem inset_pentagon (least : 0 ≤ p.margin) (across : 2 * p.margin < w)
    (down : 2 * p.margin < h) :
    (∀ q ∈ pentagon w h p, q.Inset p.margin w h) ↔ p.margin ≤ 0.38 * h ∧ 3 * p.margin ≤ w := by
  simp only [pentagon, List.forall_mem_cons, List.not_mem_nil, IsEmpty.forall_iff, implies_true,
    and_true, Point.Inset]
  constructor
  · rintro ⟨-, ⟨-, -, shoulder, -⟩, ⟨foot, -⟩, -⟩
    constructor <;> linarith
  · rintro ⟨shoulder, foot⟩
    constructorm* _ ∧ _ <;> linarith

/-- The turn at the apex keeps the shoulders below the margin, and the one at the foot keeps its
corners apart. -/
theorem unfolded_pentagon_iff (least : 0 ≤ p.margin) (across : 2 * p.margin < w)
    (down : 2 * p.margin < h) : Unfolded p.margin w h (pentagon w h p) ↔
      p.margin < 0.38 * h ∧ 4 * p.margin < w := by
  constructor
  · rintro ⟨inset, turns, -⟩
    obtain ⟨shoulder, foot⟩ := (inset_pentagon least across down).mp inset
    have half : 0 < w / 2 - p.margin := by linarith
    have below : 0 < 0.62 * h - p.margin := by linarith
    have roof : 0 ≤ (w / 2 - p.margin) * (0.38 * h - p.margin) :=
      mul_nonneg half.le (sub_nonneg.mpr shoulder)
    rcases turns with right | left
    · have apex := right ⟨p.margin, h * 0.38⟩ ⟨w / 2.0, p.margin⟩ ⟨w - p.margin, h * 0.38⟩
        [_, _] ⟨1, rfl⟩
      have base := right ⟨w - p.margin, h * 0.38⟩ ⟨w - p.margin * 2.0, h - p.margin⟩
        ⟨p.margin * 2.0, h - p.margin⟩ [_, _] ⟨4, rfl⟩
      simp only [turn] at apex base
      have above : 0 < (w / 2 - p.margin) * (0.38 * h - p.margin) := by linarith
      have floor : 0 < (0.62 * h - p.margin) * (w - 4 * p.margin) := by linarith
      exact ⟨sub_pos.mp (pos_of_mul_pos_right above half.le),
        sub_pos.mp (pos_of_mul_pos_right floor below.le)⟩
    · -- With its shoulders inside the margin the apex does not turn left.
      have apex := left ⟨p.margin, h * 0.38⟩ ⟨w / 2.0, p.margin⟩ ⟨w - p.margin, h * 0.38⟩
        [_, _] ⟨1, rfl⟩
      simp only [turn] at apex
      linarith
  · rintro ⟨shoulder, foot⟩
    refine (convex_pentagon least across shoulder foot).unfolded ?_ ?_
    · exact Nat.le_add_left 3 2
    · exact (inset_pentagon least across down).mpr ⟨shoulder.le, by linarith⟩

/-- Inside a default margin no outline folds, but for a pentagon whose margin reaches its shoulders
or a quarter of its width. -/
theorem unfolded_default_iff {family : Family}
    (plain : family ∈ [.rectangle, .diamond, .triangle, .hexagon, .pentagon]) {w h ratio : ℚ}
    (wide : 0 < w) (high : 0 < h) (least : 0 ≤ ratio) (most : ratio < 1 / 2) {p : Measures ℚ}
    (default : p.margin = defaultMargin w h ratio) :
    (∃ corners, build family w h p = polygon corners ∧ 3 ≤ corners.length ∧
      (Unfolded p.margin w h corners ↔
        (family = .pentagon → p.margin < 0.38 * h ∧ 4 * p.margin < w))) ∧
      ∀ (s : Shape) (x y r : Float) (q : Measures Float), s.margin = none →
        Drawing.measures s x y r = .ok q → q.margin = defaultMargin x y r := by
  obtain ⟨margin, across, down⟩ := defaultMargin_bounds wide high least most
  rw [← default] at margin across down
  refine ⟨?_, fun s x y r q unset measured => Drawing.margin_of_measures unset measured⟩
  by_cases house : family = .pentagon
  · subst house
    refine ⟨pentagon w h p, rfl, Nat.le_add_left 3 2, ?_⟩
    rw [unfolded_pentagon_iff margin across down]
    exact ⟨fun room _ => room, fun room => room rfl⟩
  · have stretched : family ∈ [Family.rectangle, .diamond, .triangle, .hexagon] := by
      simpa [house] using plain
    obtain ⟨corners, convex, three, unit, built⟩ := exists_stretched stretched
    refine ⟨_, built w h p, by rwa [List.length_map], ?_⟩
    exact iff_of_true (convex.unfolded_stretched three unit across down) fun same =>
      absurd same house

/-- A tenth of the shorter side leaves a pentagon its shoulders and its foot. -/
theorem unfolded_default_house : (0 : ℚ) < 200 ∧ (0 : ℚ) < 100 ∧ (0 : ℚ) ≤ 1 / 10 ∧
    (1 / 10 : ℚ) < 1 / 2 ∧ ∃ corners,
      build .pentagon 200 100 (unset 200 100 (1 / 10)) = polygon corners ∧
      Unfolded (defaultMargin 200 100 (1 / 10)) 200 100 corners := by
  have bounds : (0 : ℚ) < 200 ∧ (0 : ℚ) < 100 ∧ (0 : ℚ) ≤ 1 / 10 ∧ (1 / 10 : ℚ) < 1 / 2 := by
    norm_num
  obtain ⟨wide, high, least, most⟩ := bounds
  have plain : Family.pentagon ∈
      [Family.rectangle, .diamond, .triangle, .hexagon, .pentagon] := by decide
  obtain ⟨corners, built, -, unfolded⟩ :=
    (unfolded_default_iff plain wide high least most (p := unset 200 100 (1 / 10)) rfl).1
  refine ⟨wide, high, least, most, corners, built, unfolded.mpr fun _ => ?_⟩
  norm_num [unset, defaultMargin_eq]

/-- At three tenths the corners of the foot have changed places, and the two sides cross. -/
theorem pentagon_folded : ¬ TurnsOneWay (pentagon 100 100 (unset 100 100 (3 / 10))) ∧
    ¬ Uncrossed (pentagon 100 100 (unset 100 100 (3 / 10))) := by
  have corners : pentagon (100 : ℚ) 100 (unset 100 100 (3 / 10)) =
      [⟨50, 30⟩, ⟨70, 38⟩, ⟨40, 70⟩, ⟨60, 70⟩, ⟨30, 38⟩] := by
    norm_num [pentagon, unset, defaultMargin_eq]
  rw [corners]
  constructor
  · rintro (right | left)
    · have base := right ⟨70, 38⟩ ⟨40, 70⟩ ⟨60, 70⟩ [_, _] ⟨4, rfl⟩
      norm_num [turn] at base
    · have apex := left ⟨30, 38⟩ ⟨50, 30⟩ ⟨70, 38⟩ [_, _] ⟨1, rfl⟩
      norm_num [turn] at apex
  · intro uncrossed
    have own : OnEdge ⟨70, 38⟩ ⟨40, 70⟩ ⟨50, 178 / 3⟩ := ⟨2 / 3, by norm_num⟩
    have other : OnEdge ⟨60, 70⟩ ⟨30, 38⟩ ⟨50, 178 / 3⟩ := ⟨1 / 3, by norm_num⟩
    have meets := uncrossed ⟨70, 38⟩ ⟨40, 70⟩ [_, _, _] ⟨4, rfl⟩ (⟨60, 70⟩, ⟨30, 38⟩)
      (List.mem_cons_of_mem _ List.mem_cons_self) _ own other
    norm_num at meets

end Outline

end DeckPress
