import DeckPress.Drawing.Vector
import DeckPress.Proofs.Cascade.Height

/-!
The measures of an outline. Each is the number of its own field or that field's default, and they
are all read unless a field holds a whole number beyond the range of doubles.
-/

namespace DeckPress

/-- A measure that is set and out of range. -/
def Amount.Oversized (a : Option Amount) : Prop :=
  ∃ n, a = some n ∧ n.toJson.Oversized

namespace Drawing

theorem returns_amountOr {a : Option Amount} {default : Float} :
    Returns (amountOr a default) ↔ ¬ Amount.Oversized a := by
  cases a with
  | none =>
    constructor
    · rintro _ ⟨n, none_set, _⟩
      cases none_set
    · intro _
      exact returns_ok default
  | some n =>
    refine Json.returns_toFloat.trans (not_congr ?_)
    constructor
    · intro large
      exact ⟨n, rfl, large⟩
    · rintro ⟨m, same, large⟩
      cases same
      exact large

theorem returns_amountOr_then {β : Type} {a : Option Amount} {default : Float}
    {f : Float → Except NumberError β} {P : Prop} (next : ∀ x, Returns (f x) ↔ P) :
    Returns (amountOr a default >>= f) ↔ ¬ Amount.Oversized a ∧ P :=
  (returns_then next).trans (and_congr_left' returns_amountOr)

def measuresOf (s : Shape) : List (Option Amount) :=
  [s.w, s.h, s.margin, s.curvature, s.tipSize, s.stemSize]

section Measures

variable {s : Shape} {w h ratio : Float} {p : Measures Float}

theorem returns_measures :
    Returns (measures s w h ratio) ↔ ¬ Amount.Oversized s.margin ∧ ¬ Amount.Oversized s.curvature ∧
      ¬ Amount.Oversized s.tipSize ∧ ¬ Amount.Oversized s.stemSize := by
  apply returns_amountOr_then
  intro margin
  apply returns_amountOr_then
  intro curvature
  apply returns_amountOr_then
  intro tip
  exact (returns_last fun stem => returns_ok _).trans returns_amountOr

theorem measures_eq_ok : measures s w h ratio = .ok p ↔
    amountOr s.margin (Outline.defaultMargin w h ratio) = .ok p.margin ∧
    amountOr s.curvature 10.0 = .ok p.curvature ∧ amountOr s.tipSize 20.0 = .ok p.tip ∧
    amountOr s.stemSize 40.0 = .ok p.stem := by
  constructor
  · intro measured
    obtain ⟨margin, own, measured⟩ := bind_eq_ok.mp measured
    obtain ⟨curvature, round, measured⟩ := bind_eq_ok.mp measured
    obtain ⟨tip, pointed, measured⟩ := bind_eq_ok.mp measured
    obtain ⟨stem, thick, measured⟩ := bind_eq_ok.mp measured
    cases measured
    exact ⟨own, round, pointed, thick⟩
  · rintro ⟨margin, curvature, tip, stem⟩
    rw [measures, margin, curvature, tip, stem]
    rfl

theorem margin_of_measures (unset : s.margin = none) (measured : measures s w h ratio = .ok p) :
    p.margin = Outline.defaultMargin w h ratio := by
  have own := (measures_eq_ok.mp measured).1
  rw [unset] at own
  exact (Except.ok.inj own).symm

theorem measured_of_fits (fits : ∀ a ∈ measuresOf s, ¬ Amount.Oversized a) (ratio : Float) :
    ∃ w h p, amountOr s.w 100.0 = .ok w ∧ amountOr s.h 100.0 = .ok h ∧
      measures s w h ratio = .ok p := by
  simp only [measuresOf, List.forall_mem_cons] at fits
  obtain ⟨wide, high, margin, curvature, tip, stem, -⟩ := fits
  obtain ⟨w, width⟩ : Returns (amountOr s.w 100.0) := returns_amountOr.mpr wide
  obtain ⟨h, height⟩ : Returns (amountOr s.h 100.0) := returns_amountOr.mpr high
  obtain ⟨p, measured⟩ : Returns (measures s w h ratio) :=
    returns_measures.mpr ⟨margin, curvature, tip, stem⟩
  exact ⟨w, h, p, width, height, measured⟩

end Measures

end Drawing

end DeckPress
