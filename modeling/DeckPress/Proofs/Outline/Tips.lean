import Mathlib.Algebra.Order.Ring.Abs
import Mathlib.Analysis.Convex.Segment
import Mathlib.Tactic.NormNum
import DeckPress.Proofs.Outline.Containment
import DeckPress.Proofs.Outline.Polygon

/-!
Tips that are held back, in exact numbers and for measures of any size. The two sides of a chevron
are the same bent line, one of them moved, so they are as far from each other at every height as
they are at their ends; and a bubble is a rounded rectangle of the height that its tail leaves, with
the tail put into its foot.
-/

namespace DeckPress

/-! ## Bent lines -/

/-- A line from the top to the bottom whose middle is ahead of its ends. -/
def bent (x ahead top bottom : ℚ) : List (Point ℚ) :=
  [⟨x, top⟩, ⟨x + ahead, (top + bottom) / 2⟩, ⟨x, bottom⟩]

/-- Both lines come to every height between two, and there the right line is ahead of the left one
by the gap. -/
def ApartBy (gap top bottom : ℚ) (left right : List (Point ℚ)) : Prop :=
  ∀ y ∈ Set.uIcc top bottom, (∃ a, OnLine left a ∧ a.y = y) ∧ (∃ b, OnLine right b ∧ b.y = y) ∧
    ∀ a b, OnLine left a → OnLine right b → a.y = y → b.y = y → b.x = a.x + gap

section Bent

variable {x ahead top bottom : ℚ}

theorem ahead_of_onLine {q : Point ℚ} (on : OnLine (bent x ahead top bottom) q) :
    (q.x - x) * |bottom - top| = ahead * (|bottom - top| - |2 * q.y - (top + bottom)|) := by
  rcases onLine_three.mp on with ⟨t, least, most, across, down⟩ | ⟨t, least, most, across, down⟩
  · have height : 2 * q.y - (top + bottom) = -(1 - t) * (bottom - top) := by
      rw [down]
      ring
    rw [across, height, abs_mul, abs_neg, abs_of_nonneg (sub_nonneg.mpr most)]
    ring
  · have height : 2 * q.y - (top + bottom) = t * (bottom - top) := by
      rw [down]
      ring
    rw [across, height, abs_mul, abs_of_nonneg least]
    ring

theorem exists_onLine_bent {y : ℚ} (between : y ∈ Set.uIcc top bottom) :
    ∃ q, OnLine (bent x ahead top bottom) q ∧ q.y = y := by
  rw [← segment_eq_uIcc, segment_eq_image'] at between
  obtain ⟨t, ⟨least, most⟩, rfl⟩ := between
  -- The upper half of the height is on the first edge, and the lower half on the second.
  rcases le_total (2 * t) 1 with upper | lower
  · refine ⟨⟨x + 2 * t * ahead, top + t * (bottom - top)⟩, onLine_three.mpr (.inl ?_), rfl⟩
    exact ⟨2 * t, by linarith, upper, by ring, by ring⟩
  · refine ⟨⟨x + (2 - 2 * t) * ahead, top + t * (bottom - top)⟩, onLine_three.mpr (.inr ?_), rfl⟩
    exact ⟨2 * t - 1, by linarith, by linarith, by ring, by ring⟩

theorem apartBy_bent (apart : top ≠ bottom) (x gap ahead : ℚ) :
    ApartBy gap top bottom (bent x ahead top bottom) (bent (x + gap) ahead top bottom) := by
  refine fun y between => ⟨exists_onLine_bent between, exists_onLine_bent between, ?_⟩
  intro a b left right level same
  -- A flat line is at one height with all its points, and nothing keeps them apart.
  have length : |bottom - top| ≠ 0 := abs_ne_zero.mpr (sub_ne_zero.mpr apart.symm)
  have equal : (a.x - x) * |bottom - top| = (b.x - (x + gap)) * |bottom - top| := by
    rw [ahead_of_onLine left, ahead_of_onLine right, level, same]
  linarith [mul_right_cancel₀ length equal]

end Bent

/-! ## Chevrons and bubbles -/

namespace Outline

variable (w h : ℚ) (p : Measures ℚ)

def notch : List (Point ℚ) :=
  [⟨p.margin, p.margin⟩, ⟨p.margin + chevronTip w p, h / 2⟩, ⟨p.margin, h - p.margin⟩]

def head : List (Point ℚ) :=
  [⟨w - chevronTip w p - p.margin, p.margin⟩, ⟨w - p.margin, h / 2⟩,
    ⟨w - chevronTip w p - p.margin, h - p.margin⟩]

theorem notch_eq_bent :
    notch w h p = bent p.margin (chevronTip w p) p.margin (h - p.margin) := by
  rw [notch, bent, add_sub_cancel]

theorem head_eq_bent : head w h p =
    bent (p.margin + (w - 2 * p.margin - chevronTip w p)) (chevronTip w p) p.margin
      (h - p.margin) := by
  have start : w - chevronTip w p - p.margin = p.margin + (w - 2 * p.margin - chevronTip w p) := by
    ring
  have middle : w - p.margin =
      p.margin + (w - 2 * p.margin - chevronTip w p) + chevronTip w p := by
    ring
  rw [head, bent, add_sub_cancel, ← middle, start]

theorem chevron_around : (notch w h p).reverse ++ head w h p ~r chevron w h p := by
  refine ⟨2, ?_⟩
  have two : (2.0 : ℚ) = 2 := by norm_num
  simp [notch, head, chevron, two]

theorem chevronStart_around :
    [⟨p.margin, h - p.margin⟩, ⟨p.margin, p.margin⟩] ++ head w h p ~r chevronStart w h p := by
  refine ⟨1, ?_⟩
  have two : (2.0 : ℚ) = 2 := by norm_num
  simp [head, chevronStart, two]

theorem one_le_gap : 1 ≤ w - 2 * p.margin - chevronTip w p := by
  linarith [(chevronTip_bounds w p).2.1]

theorem lt_of_onLine_head (across : 2 * p.margin < w) {q : Point ℚ}
    (on : OnLine (head w h p) q) : p.margin < q.x := by
  refine lt_of_onLine ?_ on
  have gap := one_le_gap w p
  simp only [head, List.forall_mem_cons, List.not_mem_nil, IsEmpty.forall_iff, implies_true,
    and_true]
  refine ⟨?_, ?_, ?_⟩ <;> linarith

/-- The outline of a chevron goes up its left side and down its right one, and the sides stay apart
at all heights. -/
structure Parted : Prop where
  around : ∃ corners, build .chevron w h p = polygon corners ∧
    (notch w h p).reverse ++ head w h p ~r corners
  held : chevronTip w p = min p.tip (w - 2 * p.margin - 1)
  gap : 1 ≤ w - 2 * p.margin - chevronTip w p
  apart : p.margin ≠ h - p.margin → ApartBy (w - 2 * p.margin - chevronTip w p) p.margin
    (h - p.margin) (notch w h p) (head w h p)

/-- A chevron without a notch has an upright left side, and its right side never comes to it. -/
structure Pointed : Prop where
  around : ∃ corners, build .chevronStart w h p = polygon corners ∧
    [⟨p.margin, h - p.margin⟩, ⟨p.margin, p.margin⟩] ++ head w h p ~r corners
  ahead : 2 * p.margin < w → ∀ q, OnLine (head w h p) q → p.margin < q.x

/-- A bubble has a body with some height, and a tail of three lines that leaves the foot of the
body, comes down to the margin and goes back to the foot. -/
structure Tailed (bottom : ℚ) : Prop where
  around : ∃ before after, roundedRectangle w (bottom + p.margin) p = before ++ after ∧
    build .speechBubble w h p = before ++ [.line ⟨w * 0.3, bottom⟩, .line ⟨w * 0.25, h - p.margin⟩,
      .line ⟨w * 0.2, bottom⟩] ++ after ∧
    before.getLast? =
      some (.quad ⟨w - p.margin, bottom⟩ ⟨w - p.margin - p.curvature, bottom⟩) ∧
    after.head? = some (.line ⟨p.margin + p.curvature, bottom⟩)
  body : p.margin + 1 ≤ bottom
  tail : h - p.margin - bottom = bubbleTip h p
  held : bubbleTip h p = min p.tip (h - 2 * p.margin - 1)
  asked : p.tip ≤ h - 2 * p.margin - 1 → bubbleTip h p = p.tip

theorem tailed : Tailed w h p (h - p.margin - bubbleTip h p) where
  around := by
    refine ⟨(roundedRectangle w (h - p.margin - bubbleTip h p + p.margin) p).take 5,
      (roundedRectangle w (h - p.margin - bubbleTip h p + p.margin) p).drop 5,
      (List.take_append_drop ..).symm, ?_, ?_, ?_⟩ <;>
      simp [roundedRectangle, build, speechBubble]
  body := by linarith [(bubbleTip_bounds h p).2.1]
  tail := by ring
  held := bubbleTip_eq_min h p
  asked := by
    intro room
    rw [bubbleTip_eq_min, min_eq_left room]

/-- Tips that are held back leave every outline its inside, whatever its measures are. -/
theorem tips_open : Parted w h p ∧ Pointed w h p ∧ ∃ bottom, Tailed w h p bottom := by
  refine ⟨⟨⟨_, rfl, chevron_around w h p⟩, chevronTip_eq_min w p, one_le_gap w p, ?_⟩,
    ⟨⟨_, rfl, chevronStart_around w h p⟩, fun across q on => lt_of_onLine_head w h p across on⟩,
    _, tailed w h p⟩
  intro apart
  rw [notch_eq_bent, head_eq_bent]
  exact apartBy_bent apart _ _ _

theorem tips_open_long : ApartBy 1 10 50 (notch 100 60 ⟨10, 5, 1000, 40⟩)
      (head 100 60 ⟨10, 5, 1000, 40⟩) ∧
    (∀ q, OnLine (head 100 60 ⟨10, 5, 1000, 40⟩) q → 10 < q.x) ∧
    bubbleTip (60 : ℚ) ⟨10, 5, 39, 40⟩ = 39 := by
  obtain ⟨parted, pointed, -⟩ := tips_open 100 60 ⟨10, 5, 1000, 40⟩
  obtain ⟨-, -, bottom, tailed⟩ := tips_open 100 60 ⟨10, 5, 39, 40⟩
  have gap : (100 : ℚ) - 2 * 10 - chevronTip 100 ⟨10, 5, 1000, 40⟩ = 1 := by
    norm_num [chevronTip, lesser]
  have foot : (60 : ℚ) - 10 = 50 := by norm_num
  refine ⟨?_, pointed.ahead (by norm_num), tailed.asked (by norm_num)⟩
  simpa only [gap, foot] using parted.apart (by norm_num)

end Outline

end DeckPress
