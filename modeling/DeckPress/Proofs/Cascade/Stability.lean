import DeckPress.Proofs.Cascade.Order
import DeckPress.Proofs.Decimal.Comparison

/-!
What sorting by height comes to. Heights are finite doubles, and finite doubles are in a total
order; so there is exactly one way to put shapes from the lowest to the highest and to leave shapes
of one height in the order in which they stood, and that is what the sort does.
-/

namespace DeckPress

/-! ## Heights are finite -/

theorem Json.finite_finiteOr {fallback : Float} (own : Decimal.isFinite fallback) (x : Float) :
    Decimal.isFinite (finiteOr fallback x) := by
  unfold finiteOr
  split <;> assumption

theorem Json.finite_toFloat {fallback x : Float} {j : Json} (own : Decimal.isFinite fallback)
    (read : j.toFloat fallback = .ok x) : Decimal.isFinite x := by
  unfold toFloat at read
  cases j with
  | int n =>
    cases found : Decimal.ofInt? n with
    | none => simp [found] at read
    | some y =>
      simp only [found, Except.ok.injEq] at read
      exact read ▸ (Decimal.nearest_ofInt? found).finite
  | float y =>
    cases read
    exact finite_finiteOr own y
  | str s =>
    cases spelled : Decimal.Numeral.double? s with
    | none =>
      simp only [spelled, Except.ok.injEq] at read
      exact read ▸ own
    | some y =>
      simp only [spelled, Except.ok.injEq] at read
      exact read ▸ finite_finiteOr own y
  | _ =>
    cases read
    exact own

namespace Cascade

theorem finite_zValue {record : Record Json} {z : Float} (height : zValue record = .ok z) :
    Decimal.isFinite z :=
  Json.finite_toFloat rfl height

/-! ## Shapes in order -/

/-- Of two shapes the first is not above the second; their heights compare so as doubles. -/
def NotAbove (a b : String × Record Json) : Prop :=
  ∃ y z, zValue a.2 = .ok y ∧ zValue b.2 = .ok z ∧ y ≤ z

def Level (a b : String × Record Json) : Prop :=
  NotAbove a b ∧ NotAbove b a

/-- The same shapes from the lowest to the highest, those of one height in the order in which they
stood. -/
structure InOrder (shapes ordered : Shapes) : Prop where
  perm : ordered.Perm shapes
  ascending : ordered.Pairwise NotAbove
  stable : ∀ level : Shapes, level.Sublist shapes → level.Pairwise Level → level.Sublist ordered

def place (entry : String × Record Json) : Int :=
  (zValue entry.2).toOption.elim 0 Decimal.rank

section Place

variable {a b : String × Record Json} {shapes ordered : Shapes}

theorem place_eq {z : Float} (height : zValue a.2 = .ok z) : place a = Decimal.rank z := by
  rw [place, height]
  rfl

theorem notAbove_iff (fits : ¬ HeightFails a.2) (fits' : ¬ HeightFails b.2) :
    NotAbove a b ↔ place a ≤ place b := by
  obtain ⟨y, low⟩ := returns_zValue.mpr fits
  obtain ⟨z, high⟩ := returns_zValue.mpr fits'
  have order := Decimal.le_iff_rank_le (finite_zValue low) (finite_zValue high)
  rw [place_eq low, place_eq high, ← order]
  constructor
  · rintro ⟨_, _, first, second, below⟩
    cases low.symm.trans first
    cases high.symm.trans second
    exact below
  · intro below
    exact ⟨y, z, low, high, below⟩

theorem level_iff (fits : ¬ HeightFails a.2) (fits' : ¬ HeightFails b.2) :
    Level a b ↔ place a = place b := by
  rw [Level, notAbove_iff fits fits', notAbove_iff fits' fits]
  omega

theorem sortByZ_eq (fits : ∀ entry ∈ shapes, ¬ HeightFails entry.2) :
    sortByZ shapes = .ok (shapes.mergeSort fun a b => place a ≤ place b) := by
  refine sortByZ_eq_ok.mpr ⟨shapes.map fun entry => (place entry, entry), ?_, ?_, ?_⟩
  · intro placed member
    obtain ⟨entry, here, rfl⟩ := List.mem_map.mp member
    obtain ⟨z, height⟩ := returns_zValue.mpr (fits entry here)
    exact ⟨z, height, place_eq height⟩
  · rw [List.map_map]
    exact (List.map_id _).symm
  · have sorted : (shapes.mergeSort fun a b => place a ≤ place b).map
        (fun entry => (place entry, entry)) =
          (shapes.map fun entry => (place entry, entry)).mergeSort fun a b => a.1 ≤ b.1 :=
      List.map_mergeSort fun _ _ _ _ => rfl
    rw [← sorted, List.map_map]
    exact (List.map_id _).symm

end Place

/-! ## One order -/

section Ascending

variable {α : Type} {f : α → Int} {xs ys : List α}

theorem mem_iff_of_filter (same : ∀ k, xs.filter (f · = k) = ys.filter (f · = k)) (z : α) :
    z ∈ xs ↔ z ∈ ys := by
  have level : z ∈ xs.filter (f · = f z) ↔ z ∈ ys.filter (f · = f z) := by rw [same]
  simpa using level

theorem lowest_of_ascending {x z : α} (sorted : (x :: xs).Pairwise fun a b => f a ≤ f b)
    (member : z ∈ x :: xs) : f x ≤ f z := by
  rcases List.mem_cons.mp member with rfl | later
  · exact le_rfl
  · exact List.rel_of_pairwise_cons sorted later

/-- Lists in ascending order are equal when those of their elements that have one key are, whatever
the key is. -/
theorem eq_of_ascending (first : xs.Pairwise fun a b => f a ≤ f b)
    (second : ys.Pairwise fun a b => f a ≤ f b)
    (same : ∀ k, xs.filter (f · = k) = ys.filter (f · = k)) : xs = ys := by
  have members := mem_iff_of_filter same
  induction xs generalizing ys with
  | nil =>
    cases ys with
    | nil => rfl
    | cons y ys => exact absurd ((members y).mpr List.mem_cons_self) List.not_mem_nil
  | cons x xs ih =>
    cases ys with
    | nil => exact absurd ((members x).mp List.mem_cons_self) List.not_mem_nil
    | cons y ys =>
      -- Each of the two heads is the lowest of its list, and stands in the other one.
      have level : f y = f x := le_antisymm
        (lowest_of_ascending second ((members x).mp List.mem_cons_self))
        (lowest_of_ascending first ((members y).mpr List.mem_cons_self))
      have heads := same (f x)
      rw [List.filter_cons_of_pos (by simp), List.filter_cons_of_pos (by simp [level])] at heads
      obtain rfl := (List.cons.inj heads).1
      have rest (k : Int) : xs.filter (f · = k) = ys.filter (f · = k) := by
        have whole := same k
        by_cases here : f x = k
        · simpa [here] using whole
        · simpa [here] using whole
      rw [ih (List.pairwise_cons.mp first).2 (List.pairwise_cons.mp second).2 rest
        (mem_iff_of_filter rest)]

end Ascending

section InOrder

variable {shapes ordered : Shapes} (fits : ∀ entry ∈ shapes, ¬ HeightFails entry.2)

include fits

theorem inOrder_mergeSort : InOrder shapes (shapes.mergeSort fun a b => place a ≤ place b) := by
  have trans := key_trans place
  have total := key_total place
  refine ⟨List.mergeSort_perm shapes _, ?_, ?_⟩
  · refine (List.pairwise_mergeSort trans total shapes).imp_of_mem fun {a b} here there below => ?_
    rw [notAbove_iff (fits a (List.mem_mergeSort.mp here)) (fits b (List.mem_mergeSort.mp there))]
    exact of_decide_eq_true below
  · intro level part flat
    refine List.sublist_mergeSort trans total (flat.imp_of_mem fun {a b} here there same => ?_) part
    have places := (level_iff (fits a (part.subset here)) (fits b (part.subset there))).mp same
    exact decide_eq_true places.le

theorem InOrder.filter_place (sorted : InOrder shapes ordered) (k : Int) :
    ordered.filter (place · = k) = shapes.filter (place · = k) := by
  have flat : (shapes.filter (place · = k)).Pairwise Level := by
    refine List.pairwise_of_forall_mem_list fun a here b there => ?_
    obtain ⟨here, own⟩ := List.mem_filter.mp here
    obtain ⟨there, other⟩ := List.mem_filter.mp there
    rw [level_iff (fits a here) (fits b there)]
    exact (of_decide_eq_true own).trans (of_decide_eq_true other).symm
  have kept := (sorted.stable _ List.filter_sublist flat).filter (place · = k)
  simp only [List.filter_filter, Bool.and_self] at kept
  exact (kept.eq_of_length (sorted.perm.filter _).length_eq.symm).symm

theorem InOrder.unique {other : Shapes} (sorted : InOrder shapes ordered)
    (sorted' : InOrder shapes other) : other = ordered := by
  have ascending {result : Shapes} (sorted : InOrder shapes result) :
      result.Pairwise fun a b => place a ≤ place b := by
    refine sorted.ascending.imp_of_mem fun {a b} here there below => ?_
    exact (notAbove_iff (fits a (sorted.perm.subset here))
      (fits b (sorted.perm.subset there))).mp below
  refine eq_of_ascending (ascending sorted') (ascending sorted) fun k => ?_
  rw [sorted'.filter_place fits, sorted.filter_place fits]

end InOrder

/-- Every height is finite, heights are in a total order, and shapes are sorted in the one way
that is ascending and leaves shapes of one height as they stood. -/
theorem sortByZ_unique {shapes : Shapes} (fits : ∀ entry ∈ shapes, ¬ HeightFails entry.2) :
    (∀ entry ∈ shapes, ∃ z, zValue entry.2 = .ok z ∧ Decimal.isFinite z) ∧
    (∀ a ∈ shapes, ∀ b ∈ shapes, NotAbove a b ∨ NotAbove b a) ∧
    (∀ a ∈ shapes, ∀ b ∈ shapes, ∀ c ∈ shapes, NotAbove a b → NotAbove b c → NotAbove a c) ∧
    ∃ ordered, sortByZ shapes = .ok ordered ∧ InOrder shapes ordered ∧
      ∀ other, InOrder shapes other → other = ordered := by
  refine ⟨?_, ?_, ?_, _, sortByZ_eq fits, inOrder_mergeSort fits,
    fun other sorted => (inOrder_mergeSort fits).unique fits sorted⟩
  · intro entry member
    obtain ⟨z, height⟩ := returns_zValue.mpr (fits entry member)
    exact ⟨z, height, finite_zValue height⟩
  · intro a first b second
    rw [notAbove_iff (fits a first) (fits b second), notAbove_iff (fits b second) (fits a first)]
    exact le_total _ _
  · intro a first b second c third
    rw [notAbove_iff (fits a first) (fits b second), notAbove_iff (fits b second) (fits c third),
      notAbove_iff (fits a first) (fits c third)]
    exact le_trans

/-- Heights of every kind. All but the first and the last but one are nought. -/
def mixedHeights : Shapes :=
  [("top", [("z", .str " 1e1 ")]), ("plain", []), ("flag", [("z", .bool true)]),
    ("word", [("z", .str "nan")]), ("table", [("z", .obj [("z", .int 2)])]),
    ("endless", [("z", .float (Float.ofBits 0x7FF0000000000000))]), ("low", [("z", .int (-1))]),
    ("nought", [("z", .float (-0.0))])]

theorem sortByZ_unique_mixed :
    (∀ entry ∈ mixedHeights, ¬ HeightFails entry.2) ∧
    ∃ ordered, sortByZ mixedHeights = .ok ordered ∧ InOrder mixedHeights ordered ∧
      (∀ other, InOrder mixedHeights other → other = ordered) ∧
      ordered.map (·.1) =
        ["low", "plain", "flag", "word", "table", "endless", "nought", "top"] := by
  have fits : ∀ entry ∈ mixedHeights, ¬ HeightFails entry.2 := by
    have top : zValue [("z", .str " 1e1 ")] = .ok (Float.ofBits 0x4024000000000000) := by
      decide +kernel
    have low : zValue [("z", .int (-1))] = .ok (Float.ofBits 0xBFF0000000000000) := by
      decide +kernel
    simp only [mixedHeights, List.forall_mem_cons, List.not_mem_nil, IsEmpty.forall_iff,
      implies_true, and_true, ← returns_zValue]
    exact ⟨⟨_, top⟩, ⟨_, rfl⟩, ⟨_, rfl⟩, ⟨_, rfl⟩, ⟨_, rfl⟩, ⟨_, rfl⟩, ⟨_, low⟩, ⟨_, rfl⟩⟩
  obtain ⟨-, -, -, ordered, sorted, order, only⟩ := sortByZ_unique fits
  refine ⟨fits, ordered, sorted, order, only, ?_⟩
  have places : mixedHeights.map place =
      [4621819117588971520, 0, 0, 0, 0, 0, -4607182418800017408, 0] := by decide +kernel
  simp only [mixedHeights, List.map_cons, List.map_nil, List.cons.injEq, and_true] at places
  rw [sortByZ_eq fits] at sorted
  cases sorted
  simp [mixedHeights, List.mergeSort, List.MergeSort.Internal.splitInTwo, places]

end Cascade

end DeckPress
