import DeckPress.Proofs.Cascade.Override
import DeckPress.Proofs.Decimal.Rounding
import DeckPress.Proofs.Drawing.Locality
import DeckPress.Proofs.Drawing.Recovery

/-!
The order of shapes in a page. The sort goes by the doubles that raw records are read as, while
each shape is drawn with the height that was validated. The exact heights that are written
never fall from one shape to a later one, as far as doubles tell them apart.
-/

namespace DeckPress

open Record Decimal

/-! ## Exact heights -/

/-- The number that an amount is. Text counts as the double that it spells, and nought stands for
what is no finite number. -/
def Amount.exact : Amount → ℚ
  | .int n => n
  | .float x => number x
  | .text s => (Numeral.double? s).elim 0 number

/-- The height of a shape as it was read, nought without one. -/
def Shape.height (s : Shape) : ℚ :=
  s.z.elim 0 Amount.exact

namespace Cascade

theorem number_of_not_finite {x : Float} (other : ¬ isFinite x) : number x = 0 := by
  unfold isFinite at other
  rw [number]
  cases bits : Binary64.ofFloat x with
  | finite => simp [bits, Binary64.isFinite] at other
  | _ => rfl

theorem nearest_zero : Nearest 0.0 0 := by
  rw [← number_nought]
  exact nearest_number rfl

theorem nearest_finiteOr (x : Float) : Nearest (Json.finiteOr 0.0 x) (number x) := by
  unfold Json.finiteOr
  split
  · rename_i finite
    exact nearest_number finite
  · rename_i other
    rw [number_of_not_finite other]
    exact nearest_zero

/-- What a value is sorted by is the nearest double to the amount that it is read as. -/
theorem nearest_toFloat {j : Json} {a : Amount} {x : Float} (read : Reader.amount j = .ok a)
    (ordinary : j ≠ .bool true) (key : j.toFloat 0.0 = .ok x) : Nearest x a.exact := by
  cases j with
  | bool b =>
    -- A boolean is sorted as nought, and only one of the two is read as that.
    cases b with
    | true => exact absurd rfl ordinary
    | false =>
      cases read
      cases key
      exact nearest_zero
  | int n =>
    cases read
    unfold Json.toFloat at key
    cases found : ofInt? n with
    | none => simp [found] at key
    | some y =>
      simp only [found, Except.ok.injEq] at key
      exact key ▸ nearest_ofInt? found
  | float y =>
    cases read
    cases key
    exact nearest_finiteOr y
  | str s =>
    cases read
    unfold Json.toFloat at key
    cases spelled : Numeral.double? s with
    | none =>
      simp only [spelled, Except.ok.injEq] at key
      rw [Amount.exact, spelled, ← key]
      exact nearest_zero
    | some y =>
      simp only [spelled, Except.ok.injEq] at key
      rw [Amount.exact, spelled, ← key]
      exact nearest_finiteOr y
  | _ => cases read

theorem nearest_zValue {record : Record Json} {s : Shape} {x : Float} (distinct : Distinct record)
    (read : Shape.read (.obj record) = .ok s) (ordinary : get? record "z" ≠ some (.bool true))
    (key : zValue record = .ok x) : Nearest x s.height := by
  obtain ⟨clean, rfl⟩ := readEntity_ok read
  have own : (Shape.ofRecord record.withoutNulls).z =
      (Json.given? record "z").bind fun value => (Reader.amount value).toOption := by
    rw [← get?_withoutNulls distinct, ← value?_singleton]
    rfl
  rw [Shape.height, own]
  cases found : Json.given? record "z" with
  | none =>
    rw [zValue_of_not_given found] at key
    cases key
    exact nearest_zero
  | some value =>
    have present : get? record "z" = some value := by
      rw [Json.given?_eq, Option.filter_eq_some_iff] at found
      exact found.1
    have declared : Field.may ["z"] Reader.amount ∈ Shape.fields := by simp [Shape.fields]
    have picked : record.withoutNulls.pick? ["z"] = some ("z", value) := by
      rw [pick?_singleton, get?_withoutNulls distinct, found]
      rfl
    obtain ⟨a, amount⟩ := Field.value_of_clean clean Reader.counts_amount declared picked
    rw [zValue, present] at key
    rw [present] at ordinary
    rw [Option.bind_some, amount]
    exact nearest_toFloat amount (fun same => ordinary (congrArg some same)) key

end Cascade

namespace Drawing

/-! ## What is drawn, with its height -/

/-- A shape that is drawn, with the record that it was read from. -/
structure Emitted extends Shown where
  record : Record Json

def emitted? (policy : RenderPolicy) (entry : String × Record Json) : Option Emitted :=
  (shown? policy entry).map fun shown => ⟨shown, entry.2⟩

/-- A block is drawn from a shape: it carries the shape's id, and its style begins with the
declarations of the shape's box, the height among them. -/
structure Boxes (e : Emitted) (block : Node) : Prop where
  id : block.attribute? "data-shape-id" = some e.id
  style : ∃ others,
    block.attribute? "style" = some (Declarations.text (Style.box e.shape ++ others))

/-- A shape may come before another: its exact height is not above the other's, unless no double
tells the two apart. -/
def Emitted.Before (a b : Emitted) : Prop :=
  a.shape.height ≤ b.shape.height ∨
    ∃ x, Nearest x a.shape.height ∧ Nearest x b.shape.height

/-- The height of a shape is not a boolean that is true, the one value that the sort and the box
read differently. -/
def Emitted.Ordinary (e : Emitted) : Prop :=
  get? e.record "z" ≠ some (.bool true)

/-- A division is a slide in which shapes are stacked: it has a block for each shape of the slide
that can be drawn, and of any two of them the first may come before the second. -/
structure Stacks (order : Emitted → Emitted → Prop) (policy : RenderPolicy) (deck : Deck)
    (place : Slide × Resolved) (block : Node) : Prop where
  id : block.attribute? "data-slide-id" = some (place.1.id.getD "")
  shapes : ∃ ordered : Shapes, ordered.Perm (shapesOf deck place.2 place.1) ∧
    List.Forall₂ Boxes (ordered.filterMap (emitted? policy)) (shapeBlocks block) ∧
    (ordered.filterMap (emitted? policy)).Pairwise order

def Stacked (order : Emitted → Emitted → Prop) (policy : RenderPolicy) (document : Json)
    (html : String) : Prop :=
  ∃ fields slides deck root, document = .obj fields ∧
    get? (withoutNulls fields) "slides" = some (.arr slides) ∧
    (Deck.readLeniently document : Trace NumberError (Option Deck)).outcome = .ok (some deck) ∧
    Page.read html.toList = some [root] ∧
    List.Forall₂ (Stacks order policy deck)
      (slides.filterMap (located? policy.layoutLookup deck)) (slideBlocks root)

theorem shown?_eq_some {policy : RenderPolicy} {entry : String × Record Json} {shown : Shown}
    (found : shown? policy entry = some shown) :
    shown.id = entry.1 ∧ Shape.read (.obj entry.2) = .ok shown.shape := by
  unfold shown? at found
  split at found
  · cases found
  · rename_i s read
    obtain ⟨kind, -, rfl⟩ := Option.map_eq_some_iff.mp found
    exact ⟨rfl, read⟩

def shapeClasses : List String :=
  ["shape text-shape", "shape image-shape", "shape list-shape", "shape svg-shape"]

theorem box_shape? {c : Context} {id : String} {record : Json} {m : Markup}
    (done : (shape? c id record).outcome = .ok (some m)) :
    ∃ s, ∃ classes ∈ shapeClasses, ∃ others children, Shape.read record = .ok s ∧
      m = Markup.division classes
        (identity id s ++ [Declarations.attribute (Style.box s ++ others)]) children := by
  rw [outcome_shape?] at done
  split at done
  · cases done
  · rename_i s read
    refine ⟨s, ?_⟩
    split at done
    · cases done
    · cases done
      exact ⟨"shape text-shape", by simp [shapeClasses],
        Style.alignment s .left .top ++ Style.font c.tokens s, _, read,
        by rw [text, List.append_assoc]⟩
    · cases done
      exact ⟨"shape image-shape", by simp [shapeClasses], [], _, read,
        by rw [image, List.append_nil]⟩
    · cases done
      exact ⟨"shape list-shape", by simp [shapeClasses], Style.alignment s .left .middle, _, read,
        rfl⟩
    · obtain ⟨outline, -, same⟩ := bind_eq_ok.mp done
      obtain ⟨picture, -, rfl⟩ := Option.map_eq_some_iff.mp (Except.ok.inj same)
      exact ⟨"shape svg-shape", by simp [shapeClasses], [], _, read, by rw [List.append_nil]⟩

theorem boxes_shape? {c : Context} {entry : String × Record Json} {found : Option Markup}
    (done : (shape? c entry.1 (.obj entry.2)).outcome = .ok found) :
    Option.Rel (Recovers Boxes) (emitted? c.policy entry) found := by
  unfold emitted?
  cases shown : shown? c.policy entry with
  | none =>
    have drawn := shows_shape? done
    rw [shown] at drawn
    cases drawn
    exact .none
  | some what =>
    have drawn := shows_shape? done
    rw [shown] at drawn
    cases drawn
    obtain ⟨own, read⟩ := shown?_eq_some shown
    obtain ⟨s, classes, -, others, children, same, rfl⟩ := box_shape? done
    cases read.symm.trans same
    refine .some ⟨_, rfl, ?_, others, ?_⟩
    · rw [id_block rfl, own]
    · rw [attribute_division rfl (by decide)]
      rfl

theorem boxes_shapes {c : Context} {shapes : Shapes} {drawn : List Markup}
    (done : (drawShapes c shapes).outcome = .ok drawn) :
    List.Forall₂ Boxes (shapes.filterMap (emitted? c.policy)) (drawn.filterMap Page.node?) :=
  recovers_shapes boxes_shape? done

/-! ## Stacking -/

theorem distinct_shapesOf {deck : Deck} {found : Resolved} {slide : Slide}
    {entry : String × Record Json} (member : entry ∈ shapesOf deck found slide) :
    Distinct entry.2 := by
  have distinct : Distinct (shapesOf deck found slide) :=
    distinct_applyOverrides (Cascade.tidy_mergeShapes _).ids _
  exact Cascade.distinct_of_layers ((get?_eq_some_iff distinct).mpr member)

/-- Sorting by doubles puts exact heights in order, up to what doubles do not tell apart. -/
theorem before_of_sorted {policy : RenderPolicy} {shapes ordered : Shapes}
    (distinct : ∀ entry ∈ shapes, Distinct entry.2)
    (sorted : Cascade.sortByZ shapes = .ok ordered) :
    (ordered.filterMap (emitted? policy)).Pairwise fun a b =>
      a.Ordinary → b.Ordinary → a.Before b := by
  have same := Cascade.sortByZ_perm sorted
  rw [List.pairwise_filterMap]
  refine (Cascade.sortByZ_pairwise sorted).imp_of_mem fun {first second} here there keys => ?_
  obtain ⟨y, z, low, high, below⟩ := keys
  intro a drawn b drawn' ordinary ordinary'
  obtain ⟨lower, shown, rfl⟩ := Option.map_eq_some_iff.mp drawn
  obtain ⟨upper, shown', rfl⟩ := Option.map_eq_some_iff.mp drawn'
  have near := Cascade.nearest_zValue (distinct first (same.mem_iff.mp here))
    (shown?_eq_some shown).2 ordinary low
  have near' := Cascade.nearest_zValue (distinct second (same.mem_iff.mp there))
    (shown?_eq_some shown').2 ordinary' high
  exact near.le_or_same near' below

theorem stacks_slide {policy : RenderPolicy} {tokens : Tokens} {deck : Deck}
    {place : Slide × Resolved} {m : Markup}
    (done : (Plan.ofSlide deck place.1 place.2).draw policy tokens = .ok m) :
    Recovers (Stacks (fun a b => a.Ordinary → b.Ordinary → a.Before b) policy deck) place m := by
  obtain ⟨ordered, drawn, block, sorted, walked, own, -, id, blocks⟩ := shapeBlocks_draw done
  refine ⟨block, own, id, ordered, Cascade.sortByZ_perm sorted, ?_, ?_⟩
  · rw [blocks]
    exact boxes_shapes walked
  · exact before_of_sorted (fun _ => distinct_shapesOf) sorted

/-- In a rendered page the shapes of every slide are stacked by the exact heights that are written,
as far as doubles tell these apart. -/
theorem render_stacked (policy : RenderPolicy) (document : Json) (html : String)
    (rendered : (render policy document).outcome = .ok html) (filled : html ≠ "") :
    Stacked (fun a b => a.Ordinary → b.Ordinary → a.Before b) policy document html := by
  obtain ⟨fields, slides, deck, drawn, own, given, reading, walked, rfl⟩ :=
    slides_of_render rendered filled
  obtain ⟨root, page, blocks⟩ := slideBlocks_fragment (shows_slides walked)
  have legible : Page.read (fragment policy deck drawn).render.toList = some [root] :=
    page ▸ read_fragment (drawn_slides walked)
  refine ⟨fields, slides, deck, root, own, given, reading, legible, ?_⟩
  rw [blocks]
  exact nodes_of_recovers ((draws_places walked).imp fun _ _ => stacks_slide)

theorem draw_texts {policy : RenderPolicy} {tokens : Tokens} {deck : Deck} {slide : Slide}
    {found : Resolved} (texts : ∀ entry ∈ shapesOf deck found slide,
      Returns (Cascade.zValue entry.2) ∧
        classify policy (.ofRecord (withoutNulls entry.2)) = some .text) :
    ∃ m, (Plan.ofSlide deck slide found).draw policy tokens = .ok m := by
  rw [draw_ofSlide]
  refine returns_drawSlide.mpr ?_
  rintro ⟨entry, member, height | ⟨s, family, read, kind, -⟩⟩
  · exact Cascade.returns_zValue.mp (texts entry member).1 height
  · obtain ⟨-, rfl⟩ := readEntity_ok read
    cases (texts entry member).2.symm.trans kind

/-! ## A slide with two shapes -/

def heightRecord (z : Json) : Record Json :=
  [("type", .str "text"), ("z", z)]

def pairShapes (p q : Json) : Shapes :=
  [("first", heightRecord p), ("second", heightRecord q)]

def pairLayout (p q : Json) : Record Json :=
  [("shapes", .obj [("first", .obj (heightRecord p)), ("second", .obj (heightRecord q))])]

def pairSlide : Record Json :=
  [("layout", .str "plain")]

def pairDeck (p q : Json) : Record Json :=
  [("layouts", .obj [("plain", .obj (pairLayout p q))]), ("slides", .arr [.obj pairSlide])]

section Pair

variable {p q : Json}

theorem located_pair : located? RenderPolicy.keyed.layoutLookup (.ofRecord (pairDeck p q))
    (.obj pairSlide) = some (.ofRecord pairSlide, ⟨none, .ofRecord (pairLayout p q)⟩) := by
  have slide : Slide.read (.obj pairSlide) = .ok (.ofRecord pairSlide) := rfl
  have found : lookUp RenderPolicy.keyed.layoutLookup (.ofRecord pairSlide)
      (.ofRecord (pairDeck p q)) = do
        return some ⟨none, ← Layout.read (.obj (pairLayout p q))⟩ := rfl
  have layout : Layout.read (.obj (pairLayout p q)) = .ok (.ofRecord (pairLayout p q)) := by
    have whole : (withoutNulls (pairLayout p q)).keys.any Text.hasHalf = false := by
      change ["shapes"].any Text.hasHalf = false
      rfl
    unfold Layout.read readEntity
    dsimp only
    rw [whole, if_neg Bool.false_ne_true]
    rfl
  unfold located?
  rw [slide]
  dsimp only
  rw [found, layout]
  rfl

theorem reading_pair : Deck.reading? (.obj (pairDeck p q)) = some (.ofRecord (pairDeck p q)) := by
  have whole : (withoutNulls (pairDeck p q)).keys.any Text.hasHalf = false := by
    change ["layouts", "slides"].any Text.hasHalf = false
    rfl
  have sound : Field.faulty Deck.fields (withoutNulls (pairDeck p q)) = [] := rfl
  rw [Deck.reading?_eq whole, if_neg (by rw [sound]; exact List.not_mem_nil)]
  rfl

theorem shapesOf_pair : shapesOf (.ofRecord (pairDeck p q)) ⟨none, .ofRecord (pairLayout p q)⟩
    (.ofRecord pairSlide) = pairShapes p q :=
  rfl

theorem sortByZ_pair {y z : Float} (low : Cascade.zValue (heightRecord p) = .ok y)
    (high : Cascade.zValue (heightRecord q) = .ok z) :
    Cascade.sortByZ (pairShapes p q) = .ok (if rank y ≤ rank z then pairShapes p q else
      [("second", heightRecord q), ("first", heightRecord p)]) := by
  refine Cascade.sortByZ_eq_ok.mpr
    ⟨[(rank y, "first", heightRecord p), (rank z, "second", heightRecord q)], ?_, rfl, ?_⟩
  · simp [low, high]
  · by_cases below : rank y ≤ rank z <;> simp [List.mergeSort, below, pairShapes]

theorem draw_pair {y z : Float} (low : Cascade.zValue (heightRecord p) = .ok y)
    (high : Cascade.zValue (heightRecord q) = .ok z) : ∃ m,
    (Plan.ofSlide (.ofRecord (pairDeck p q)) (.ofRecord pairSlide)
      ⟨none, .ofRecord (pairLayout p q)⟩).draw .keyed (tokensOf .keyed (.ofRecord (pairDeck p q))) =
        .ok m := by
  refine draw_texts fun entry member => ?_
  rw [shapesOf_pair] at member
  simp only [pairShapes, List.mem_cons, List.not_mem_nil, or_false] at member
  rcases member with rfl | rfl
  · exact ⟨⟨y, low⟩, rfl⟩
  · exact ⟨⟨z, high⟩, rfl⟩

theorem page_pair {y z : Float} (low : Cascade.zValue (heightRecord p) = .ok y)
    (high : Cascade.zValue (heightRecord q) = .ok z) :
    ∃ html root slide ordered, (render .keyed (.obj (pairDeck p q))).outcome = .ok html ∧
      html ≠ "" ∧ Page.read html.toList = some [root] ∧ slideBlocks root = [slide] ∧
      Cascade.sortByZ (pairShapes p q) = .ok ordered ∧
      List.Forall₂ Boxes (ordered.filterMap (emitted? .keyed)) (shapeBlocks slide) := by
  obtain ⟨m, drawn⟩ := draw_pair low high
  obtain ⟨html, root, slide, rendered, filled, page, only, own⟩ :=
    page_of_place .keyed reading_pair rfl rfl
      (List.filterMap_cons_some located_pair) drawn
  obtain ⟨ordered, found, block, sorted, shapes, own', -, -, blocks⟩ := shapeBlocks_draw drawn
  cases own.symm.trans own'
  refine ⟨html, root, slide, ordered, rendered, filled, page, only, sorted, ?_⟩
  rw [blocks]
  exact boxes_shapes shapes

theorem Stacked.pair {order : Emitted → Emitted → Prop} {html : String} {root slide : Node}
    (stacked : Stacked order .keyed (.obj (pairDeck p q)) html)
    (page : Page.read html.toList = some [root]) (only : slideBlocks root = [slide]) :
    Stacks order .keyed (.ofRecord (pairDeck p q))
      (.ofRecord pairSlide, ⟨none, .ofRecord (pairLayout p q)⟩) slide := by
  obtain ⟨fields, slides, deck, root', own, given, reading, page', each⟩ := stacked
  cases own
  cases given
  rw [Deck.outcome_readLeniently_eq, reading_pair] at reading
  cases reading
  cases page.symm.trans page'
  rw [only, List.filterMap_cons_some located_pair] at each
  exact (List.forall₂_cons.mp each).1

theorem Stacks.pair {order : Emitted → Emitted → Prop} {slide : Node} {a b : Shown}
    (each : Stacks order .keyed (.ofRecord (pairDeck p q))
      (.ofRecord pairSlide, ⟨none, .ofRecord (pairLayout p q)⟩) slide)
    (first : shown? .keyed ("first", heightRecord p) = some a)
    (second : shown? .keyed ("second", heightRecord q) = some b)
    (blocks : List.Forall₂ Boxes ((pairShapes p q).filterMap (emitted? .keyed))
      (shapeBlocks slide)) : order ⟨a, heightRecord p⟩ ⟨b, heightRecord q⟩ := by
  have front : emitted? .keyed ("first", heightRecord p) = some ⟨a, heightRecord p⟩ := by
    rw [emitted?, first, Option.map_some]
  have back : emitted? .keyed ("second", heightRecord q) = some ⟨b, heightRecord q⟩ := by
    rw [emitted?, second, Option.map_some]
  obtain ⟨ordered, same, drawn, sorted⟩ := each.shapes
  rw [shapesOf_pair, pairShapes, List.perm_pair] at same
  rcases same with rfl | rfl
  · simp only [List.filterMap_cons_some front, List.filterMap_cons_some back] at sorted
    exact List.rel_of_pairwise_cons sorted List.mem_cons_self
  · simp only [pairShapes, List.filterMap_cons_some front, List.filterMap_cons_some back] at *
    obtain ⟨block, _, one, -, cut⟩ := List.forall₂_cons_left_iff.mp blocks
    obtain ⟨block', _, other, -, cut'⟩ := List.forall₂_cons_left_iff.mp drawn
    cases cut.symm.trans cut'
    have ids : a.id = b.id := Option.some.inj (one.id.symm.trans other.id)
    rw [(shown?_eq_some first).1, (shown?_eq_some second).1] at ids
    exact absurd ids (show "first" ≠ "second" by decide)

/-- In every order by which the page is stacked, the shape that is listed first comes before the
other unless it is sorted above it. -/
theorem order_pair {order : Emitted → Emitted → Prop} {a b : Shown} {y z : Float}
    (claim : ∀ html, (render .keyed (.obj (pairDeck p q))).outcome = .ok html → html ≠ "" →
      Stacked order .keyed (.obj (pairDeck p q)) html)
    (first : shown? .keyed ("first", heightRecord p) = some a)
    (second : shown? .keyed ("second", heightRecord q) = some b)
    (low : Cascade.zValue (heightRecord p) = .ok y)
    (high : Cascade.zValue (heightRecord q) = .ok z) (below : rank y ≤ rank z) :
    order ⟨a, heightRecord p⟩ ⟨b, heightRecord q⟩ := by
  obtain ⟨html, root, slide, ordered, rendered, filled, page, only, sorted, blocks⟩ :=
    page_pair low high
  rw [sortByZ_pair low high, if_pos below] at sorted
  cases sorted
  exact ((claim html rendered filled).pair page only).pair first second blocks

theorem zValue_int {n : Int} {x : Float} (found : ofInt? n = some x) :
    Cascade.zValue (heightRecord (.int n)) = .ok x := by
  change Json.toFloat 0.0 (.int n) = _
  unfold Json.toFloat
  simp only [found]

end Pair

theorem number_half : number 0.5 = 1 / 2 := by
  rw [number_of_bits (m := 2 ^ 52) (e := -53) (by decide +kernel)]
  norm_num

theorem number_one : number 1.0 = ((1 : Int) : ℚ) := by
  rw [number_of_bits (m := 2 ^ 52) (e := -52) (by decide +kernel)]
  norm_num

theorem number_two : number 2.0 = ((2 : Int) : ℚ) := by
  rw [number_of_bits (m := 2 ^ 52) (e := -51) (by decide +kernel)]
  norm_num

/-- The shape that is listed first has the greater height, and so it is drawn last. -/
theorem render_stacked_pair :
    ∃ html root slide first second,
      (render .keyed (.obj (pairDeck (.int 2) (.float 0.5)))).outcome = .ok html ∧ html ≠ "" ∧
      Page.read html.toList = some [root] ∧ slideBlocks root = [slide] ∧
      shapeBlocks slide = [second, first] ∧
      second.attribute? "data-shape-id" = some "second" ∧
      first.attribute? "data-shape-id" = some "first" := by
  have two : ofInt? 2 = some 2.0 := by decide +kernel
  obtain ⟨html, root, slide, -, rendered, filled, page, only, -⟩ :=
    page_pair (zValue_int two) (q := .float 0.5) rfl
  have stacked := render_stacked .keyed _ html rendered filled
  obtain ⟨ordered, same, drawn, sorted⟩ := (stacked.pair page only).shapes
  rw [shapesOf_pair, pairShapes, List.perm_pair] at same
  rcases same with rfl | rfl
  · have wrong := List.rel_of_pairwise_cons sorted List.mem_cons_self nofun nofun
    change ((2 : Int) : ℚ) ≤ number 0.5 ∨ ∃ x, Nearest x ((2 : Int) : ℚ) ∧ Nearest x (number 0.5)
      at wrong
    rw [number_half] at wrong
    have below := le_of_doubles rfl number_two rfl number_half wrong
    norm_num at below
  · obtain ⟨second, _, upper, others, cut⟩ := List.forall₂_cons_left_iff.mp drawn
    obtain ⟨first, _, lower, no_more, rfl⟩ := List.forall₂_cons_left_iff.mp others
    cases no_more
    exact ⟨html, root, slide, first, second, rendered, filled, page, only, cut, upper.id, lower.id⟩

/-- Whole numbers that round to one double are not told apart by the sort, and a boolean that is
true is sorted as nought and drawn as one. -/
theorem render_not_stacked :
    ¬ (∀ policy document html, (render policy document).outcome = .ok html → html ≠ "" →
      Stacked (fun a b => a.Ordinary → b.Ordinary → a.shape.height ≤ b.shape.height) policy
        document html) ∧
    ¬ (∀ policy document html, (render policy document).outcome = .ok html → html ≠ "" →
      Stacked (fun a b => a.Before b) policy document html) := by
  constructor
  · intro claim
    have wide : ofInt? 9007199254740993 = some (Float.ofBits 0x4340000000000000) := by
      decide +kernel
    have narrow : ofInt? 9007199254740992 = some (Float.ofBits 0x4340000000000000) := by
      decide +kernel
    have wrong := order_pair (fun html => claim .keyed _ html) rfl rfl (zValue_int wide)
      (zValue_int narrow) le_rfl nofun nofun
    change ((9007199254740993 : Int) : ℚ) ≤ ((9007199254740992 : Int) : ℚ) at wrong
    norm_num at wrong
  · intro claim
    have wrong := order_pair (p := .bool true) (q := .float 0.5)
      (fun html => claim .keyed _ html) rfl rfl rfl rfl (by decide +kernel)
    change ((1 : Int) : ℚ) ≤ number 0.5 ∨ ∃ x, Nearest x ((1 : Int) : ℚ) ∧ Nearest x (number 0.5)
      at wrong
    rw [number_half] at wrong
    have below := le_of_doubles rfl number_one rfl number_half wrong
    norm_num at below

end Drawing

end DeckPress
