import Mathlib.Algebra.Order.Field.Rat
import Mathlib.Tactic.CasesM
import Mathlib.Tactic.Linarith
import Mathlib.Tactic.NormNum
import DeckPress.Drawing.Vector
import DeckPress.Proofs.Outline.Arrows
import DeckPress.Proofs.Outline.PathText

/-!
Where an outline lies, in exact numbers. The measures that stand in for those a shape does not set
are lengths of their own, apart from the margin, and do not shrink with the box. An outline lies in
its box exactly when the box is large enough for the measures that its family uses, and the
families that use nothing but the margin always do.
-/

namespace DeckPress

def Point.InBox (w h : ℚ) (q : Point ℚ) : Prop :=
  0 ≤ q.x ∧ q.x ≤ w ∧ 0 ≤ q.y ∧ q.y ≤ h

namespace Point

variable {w h : ℚ} {q : Point ℚ}

theorem inBox_mirrored : (q.mirrored w).InBox w h ↔ q.InBox w h := by
  simp only [InBox, mirrored]
  constructor <;> rintro ⟨left, right, top, bottom⟩ <;>
    exact ⟨by linarith, by linarith, top, bottom⟩

theorem inBox_upturned : (q.upturned h).InBox w h ↔ q.InBox w h := by
  simp only [InBox, upturned]
  constructor <;> rintro ⟨left, right, top, bottom⟩ <;>
    exact ⟨left, right, by linarith, by linarith⟩

theorem inBox_swapped : q.swapped.InBox w h ↔ q.InBox h w := by
  simp only [InBox, swapped]
  tauto

end Point

namespace Segment

variable {α : Type}

def radii : Segment α → List α
  | .arc rx ry _ _ _ _ => [rx, ry]
  | _ => []

end Segment

def Contained (w h : ℚ) (segments : List (Segment ℚ)) : Prop :=
  ∀ s ∈ segments, ∀ q ∈ s.points, q.InBox w h

theorem contained_nil (w h : ℚ) : Contained w h [] :=
  nofun

theorem contained_cons {w h : ℚ} {s : Segment ℚ} {segments : List (Segment ℚ)} :
    Contained w h (s :: segments) ↔ (∀ q ∈ s.points, q.InBox w h) ∧ Contained w h segments :=
  List.forall_mem_cons

theorem contained_polygon {w h : ℚ} {corners : List (Point ℚ)} :
    Contained w h (Outline.polygon corners) ↔ ∀ q ∈ corners, q.InBox w h := by
  cases corners <;> simp [Contained, Outline.polygon, Segment.points, or_imp, forall_and]

theorem radii_polygon {corners : List (Point ℚ)} :
    ∀ s ∈ Outline.polygon corners, ∀ r ∈ s.radii, 0 ≤ r := by
  cases corners <;> simp [Outline.polygon, Segment.radii, or_imp, forall_and]

/-! ## Measures -/

namespace Outline

section Unset

variable {α : Type} [Mul α] [OfScientific α] [LT α] [DecidableLT α] [BEq α]

/-- The measures of a shape that sets none of its own. -/
def unset (w h ratio : α) : Measures α :=
  { margin := defaultMargin w h ratio, curvature := 10.0, tip := 20.0, stem := 40.0 }

end Unset

theorem lesser_eq_min (a b : ℚ) : lesser a b = min a b := by
  simp only [lesser, min_def]
  split <;> split <;> linarith

theorem defaultMargin_eq (w h ratio : ℚ) : defaultMargin w h ratio = min w h * ratio := by
  unfold defaultMargin
  split
  · next none =>
    have nought : ratio = 0.0 := by simpa using none
    rw [nought]
    norm_num
  · rw [lesser_eq_min]

theorem defaultMargin_bounds {w h ratio : ℚ} (wide : 0 < w) (high : 0 < h) (least : 0 ≤ ratio)
    (most : ratio < 1 / 2) : 0 ≤ defaultMargin w h ratio ∧ 2 * defaultMargin w h ratio < w ∧
      2 * defaultMargin w h ratio < h := by
  have positive : 0 < min w h := lt_min wide high
  have half : min w h * ratio < min w h * (1 / 2) := mul_lt_mul_of_pos_left most positive
  rw [defaultMargin_eq]
  refine ⟨mul_nonneg positive.le least, ?_, ?_⟩
  · linarith [min_le_left w h]
  · linarith [min_le_right w h]

end Outline

theorem Drawing.measures_unset {s : Shape} (margin : s.margin = none)
    (curvature : s.curvature = none) (tip : s.tipSize = none) (stem : s.stemSize = none)
    (w h ratio : Float) : Drawing.measures s w h ratio = .ok (Outline.unset w h ratio) := by
  rw [Drawing.measures, margin, curvature, tip, stem]
  rfl

/-- Measures of which none is negative, with a margin of less than half of every side. -/
structure Measures.Proper (w h : ℚ) (p : Measures ℚ) : Prop where
  margin : 0 ≤ p.margin
  across : 2 * p.margin < w
  down : 2 * p.margin < h
  curvature : 0 ≤ p.curvature
  tip : 0 ≤ p.tip
  stem : 0 ≤ p.stem

theorem Measures.Proper.swapped {w h : ℚ} {p : Measures ℚ} (proper : p.Proper w h) :
    p.Proper h w :=
  { proper with across := proper.down, down := proper.across }

theorem Outline.proper_unset {w h ratio : ℚ} (wide : 0 < w) (high : 0 < h) (least : 0 ≤ ratio)
    (most : ratio < 1 / 2) : (unset w h ratio).Proper w h := by
  obtain ⟨margin, across, down⟩ := defaultMargin_bounds wide high least most
  exact ⟨margin, across, down, by norm_num [unset], by norm_num [unset], by norm_num [unset]⟩

/-- A tip that is held back is the one asked for or all that there is room for, whichever is
less. -/
theorem Outline.chevronTip_eq_min (w : ℚ) (p : Measures ℚ) :
    chevronTip w p = min p.tip (w - 2 * p.margin - 1) := by
  rw [chevronTip, lesser_eq_min]
  norm_num

theorem Outline.bubbleTip_eq_min (h : ℚ) (p : Measures ℚ) :
    bubbleTip h p = min p.tip (h - 2 * p.margin - 1) :=
  chevronTip_eq_min h p

theorem Outline.chevronTip_bounds (w : ℚ) (p : Measures ℚ) :
    chevronTip w p ≤ p.tip ∧ chevronTip w p ≤ w - 2 * p.margin - 1 ∧
      (chevronTip w p = p.tip ∨ chevronTip w p = w - 2 * p.margin - 1) := by
  rw [chevronTip_eq_min]
  exact ⟨min_le_left _ _, min_le_right _ _, min_choice _ _⟩

theorem Outline.bubbleTip_bounds (h : ℚ) (p : Measures ℚ) :
    bubbleTip h p ≤ p.tip ∧ bubbleTip h p ≤ h - 2 * p.margin - 1 ∧
      (bubbleTip h p = p.tip ∨ bubbleTip h p = h - 2 * p.margin - 1) :=
  chevronTip_bounds h p

/-! ## Families -/

/-- What the measures of an outline ask of its box. -/
def Family.Fits (w h : ℚ) (p : Measures ℚ) : Family → Prop
  | .roundedRectangle => p.margin + p.curvature ≤ w ∧ p.margin + p.curvature ≤ h
  | .ellipse => 0.2 ≤ w
  | .arrowRight | .arrowLeft => p.tip ≤ w ∧ p.stem ≤ h
  | .arrowUp | .arrowDown => p.stem ≤ w ∧ p.tip ≤ h
  | .chevron | .chevronStart => p.margin + 1 ≤ w
  | .speechBubble => p.margin + p.curvature ≤ w ∧ p.margin + p.curvature ≤ h ∧
      p.margin + 1 ≤ h ∧ (p.margin + p.tip + p.curvature ≤ h ∨ p.curvature ≤ p.margin + 1)
  | .rectangle | .diamond | .triangle | .hexagon | .pentagon => True

namespace Outline

section Proper

variable {w h : ℚ} {p : Measures ℚ} (proper : p.Proper w h)

include proper

theorem contained_plain {family : Family}
    (plain : family ∈ [.rectangle, .diamond, .triangle, .hexagon, .pentagon]) :
    Contained w h (build family w h p) := by
  obtain ⟨margin, across, down, -, -, -⟩ := proper
  simp only [List.mem_cons, List.not_mem_nil, or_false] at plain
  rcases plain with rfl | rfl | rfl | rfl | rfl <;>
    simp only [build, rectangle, diamond, triangle, hexagon, pentagon, contained_polygon,
      List.forall_mem_cons, List.not_mem_nil, IsEmpty.forall_iff, implies_true, and_true,
      Point.InBox] <;>
    constructorm* _ ∧ _ <;> linarith

theorem contained_roundedRectangle : Contained w h (build .roundedRectangle w h p) ↔
    p.margin + p.curvature ≤ w ∧ p.margin + p.curvature ≤ h := by
  obtain ⟨margin, across, down, round, -, -⟩ := proper
  simp only [build, roundedRectangle, contained_cons, contained_nil, Segment.points,
    List.forall_mem_cons, List.not_mem_nil, IsEmpty.forall_iff, implies_true, and_true, Point.InBox]
  constructor
  · rintro ⟨⟨-, start, -⟩, -, ⟨-, -, -, -, corner⟩, -⟩
    constructor <;> linarith
  · rintro ⟨wide, high⟩
    constructorm* _ ∧ _ <;> linarith

theorem contained_ellipse : Contained w h (build .ellipse w h p) ↔ 0.2 ≤ w := by
  obtain ⟨margin, across, down, -, -, -⟩ := proper
  simp only [build, ellipse, contained_cons, contained_nil, Segment.points,
    List.forall_mem_cons, List.not_mem_nil, IsEmpty.forall_iff, implies_true, and_true, Point.InBox]
  constructor
  · rintro ⟨-, stop, -⟩
    linarith
  · intro wide
    constructorm* _ ∧ _ <;> linarith

/-- All four arrows are this one. -/
theorem inBox_arrowRight : (∀ q ∈ arrowRight w h p, q.InBox w h) ↔ p.tip ≤ w ∧ p.stem ≤ h := by
  obtain ⟨margin, across, down, -, tip, stem⟩ := proper
  simp only [arrowRight, List.forall_mem_cons, List.not_mem_nil, IsEmpty.forall_iff, implies_true,
    and_true, Point.InBox]
  constructor
  · rintro ⟨foot, shoulder, -⟩
    constructor <;> linarith
  · rintro ⟨deep, thick⟩
    constructorm* _ ∧ _ <;> linarith

theorem inBox_arrowDown : (∀ q ∈ arrowDown w h p, q.InBox w h) ↔ p.stem ≤ w ∧ p.tip ≤ h := by
  obtain ⟨start, others, right, own⟩ := arrowDown_eq_swapped w h p
  have same : (∀ q ∈ arrowDown w h p, q.InBox w h) ↔
      ∀ q ∈ (arrowRight h w p).map Point.swapped, q.InBox w h := by
    simp only [right, own, List.forall_mem_cons, List.mem_reverse]
  rw [same, List.forall_mem_map]
  simp only [Point.inBox_swapped]
  rw [inBox_arrowRight proper.swapped, and_comm]

theorem contained_chevronStart :
    Contained w h (build .chevronStart w h p) ↔ p.margin + 1 ≤ w := by
  obtain ⟨margin, across, down, -, tip, -⟩ := proper
  obtain ⟨asked, most, choice⟩ := chevronTip_bounds w p
  simp only [build, chevronStart, contained_polygon, List.forall_mem_cons, List.not_mem_nil,
    IsEmpty.forall_iff, implies_true, and_true, Point.InBox]
  constructor
  · rintro ⟨-, ⟨-, shoulder, -⟩, -⟩
    linarith
  · intro wide
    rcases choice with same | same <;> rw [same] at most ⊢ <;> constructorm* _ ∧ _ <;> linarith

/-- The notch never leaves the box before the shoulders do. -/
theorem contained_chevron : Contained w h (build .chevron w h p) ↔ p.margin + 1 ≤ w := by
  have start := contained_chevronStart proper
  obtain ⟨margin, across, down, -, tip, -⟩ := proper
  obtain ⟨asked, most, choice⟩ := chevronTip_bounds w p
  have notched : chevron w h p =
      chevronStart w h p ++ [⟨p.margin + chevronTip w p, h / 2.0⟩] := rfl
  simp only [build, contained_polygon] at start ⊢
  rw [notched, List.forall_mem_append, start, List.forall_mem_singleton, and_iff_left_iff_imp]
  intro wide
  simp only [Point.InBox]
  rcases choice with same | same <;> rw [same] at most ⊢ <;> constructorm* _ ∧ _ <;> linarith

theorem contained_speechBubble : Contained w h (build .speechBubble w h p) ↔
    p.margin + p.curvature ≤ w ∧ p.margin + p.curvature ≤ h ∧ p.margin + 1 ≤ h ∧
      (p.margin + p.tip + p.curvature ≤ h ∨ p.curvature ≤ p.margin + 1) := by
  obtain ⟨margin, across, down, round, tip, -⟩ := proper
  obtain ⟨asked, most, choice⟩ := bubbleTip_bounds h p
  simp only [build, speechBubble, contained_cons, contained_nil, Segment.points,
    List.forall_mem_cons, List.not_mem_nil, IsEmpty.forall_iff, implies_true, and_true,
    Point.InBox]
  constructor
  · rintro ⟨⟨-, start, -⟩, -, ⟨-, -, -, -, corner⟩, ⟨-, -, side, -⟩, ⟨⟨-, -, -, base⟩, -⟩, -⟩
    refine ⟨by linarith, by linarith, by linarith, ?_⟩
    rcases choice with same | same <;> rw [same] at side
    · exact .inl (by linarith)
    · exact .inr (by linarith)
  · rintro ⟨wide, high, body, room⟩
    rcases choice with same | same <;> rw [same] at asked ⊢ <;> rcases room with room | room <;>
      constructorm* _ ∧ _ <;> linarith

theorem radii_nonneg (family : Family) :
    ∀ s ∈ build family w h p, ∀ r ∈ s.radii, 0 ≤ r := by
  cases family with
  | roundedRectangle => simp [build, roundedRectangle, Segment.radii]
  | ellipse =>
    simp only [build, ellipse, List.forall_mem_cons, Segment.radii, List.not_mem_nil,
      IsEmpty.forall_iff, implies_true, and_true, true_and]
    exact ⟨by linarith [proper.across], by linarith [proper.down]⟩
  | speechBubble => simp [build, speechBubble, Segment.radii]
  | _ =>
    simp only [build]
    exact radii_polygon

theorem contained_iff_fits (family : Family) :
    Contained w h (build family w h p) ↔ family.Fits w h p := by
  cases family with
  | roundedRectangle => exact contained_roundedRectangle proper
  | ellipse => exact contained_ellipse proper
  | arrowRight =>
    rw [build, contained_polygon]
    exact inBox_arrowRight proper
  | arrowLeft =>
    simp only [build, contained_polygon, arrowLeft_eq, List.forall_mem_map, Point.inBox_mirrored]
    exact inBox_arrowRight proper
  | arrowUp =>
    have down := inBox_arrowDown proper
    simp only [arrowDown_eq, List.forall_mem_map, Point.inBox_upturned] at down
    simp only [build, contained_polygon]
    exact down
  | arrowDown =>
    simp only [build, contained_polygon]
    exact inBox_arrowDown proper
  | chevron => exact contained_chevron proper
  | chevronStart => exact contained_chevronStart proper
  | speechBubble => exact contained_speechBubble proper
  | _ => exact iff_of_true (contained_plain proper (by decide)) trivial

end Proper

/-- The outline of a shape that sets no measures lies in its box exactly when the box has room for
those that stand in for them. -/
theorem contained_unset_iff (family : Family) {w h ratio : ℚ} (wide : 0 < w) (high : 0 < h)
    (least : 0 ≤ ratio) (most : ratio < 1 / 2) :
    (Contained w h (build family w h (unset w h ratio)) ↔ family.Fits w h (unset w h ratio)) ∧
      (∀ s ∈ build family w h (unset w h ratio), ∀ r ∈ s.radii, 0 ≤ r) ∧
      ∀ (s : Shape) (x y r : Float), s.margin = none → s.curvature = none → s.tipSize = none →
        s.stemSize = none → Drawing.measures s x y r = .ok (unset x y r) := by
  have proper : (unset w h ratio).Proper w h := proper_unset wide high least most
  refine ⟨contained_iff_fits proper family, radii_nonneg proper family, ?_⟩
  intro s x y r margin curvature tip stem
  exact Drawing.measures_unset margin curvature tip stem x y r

theorem contained_unset_flat : (0 : ℚ) < 100 ∧ (0 : ℚ) < 40 ∧ (0 : ℚ) ≤ 1 / 10 ∧
    (1 / 10 : ℚ) < 1 / 2 ∧
    Contained 100 40 (build .speechBubble 100 40 (unset 100 40 (1 / 10))) := by
  have bounds : (0 : ℚ) < 100 ∧ (0 : ℚ) < 40 ∧ (0 : ℚ) ≤ 1 / 10 ∧ (1 / 10 : ℚ) < 1 / 2 := by
    norm_num
  obtain ⟨wide, high, least, most⟩ := bounds
  refine ⟨wide, high, least, most, (contained_unset_iff _ wide high least most).1.mpr ?_⟩
  norm_num [Family.Fits, unset, defaultMargin_eq]

theorem not_contained_narrow :
    ¬ Contained 10 100 (build .arrowRight 10 100 (unset 10 100 0)) := by
  have proper : (unset 10 100 0).Proper (10 : ℚ) 100 :=
    proper_unset (by norm_num) (by norm_num) le_rfl (by norm_num)
  rw [contained_iff_fits proper]
  norm_num [Family.Fits, unset]

end Outline

end DeckPress
