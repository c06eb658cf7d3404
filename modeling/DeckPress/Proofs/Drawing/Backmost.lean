import DeckPress.Proofs.Drawing.Stacking

/-!
The background of a page that is drawn as a layer. It comes first in its slide, and its height is
the greatest whole number that stays below nought and below the floor of every height that shapes
are sorted by.
-/

namespace DeckPress

open Record Decimal

inductive Json.Numeric : Json → Prop where
  | int (n : Int) : Numeric (.int n)
  | float {x : Float} (finite : isFinite x) : Numeric (.float x)
  | text {s : String} {x : Float} (spelled : Numeral.double? s = some x) (finite : isFinite x) :
      Numeric (.str s)

theorem Json.toFloat_of_not_numeric {fallback : Float} {j : Json} (other : ¬ j.Numeric) :
    j.toFloat fallback = .ok fallback := by
  have infinite {x : Float} (out : ¬ isFinite x) : finiteOr fallback x = fallback := by
    rw [finiteOr, if_neg out]
  unfold toFloat
  cases j with
  | int n => exact absurd (.int n) other
  | float x => exact congrArg Except.ok (infinite fun finite => other (.float finite))
  | str s =>
    dsimp only
    split
    · rename_i spelled
      exact congrArg Except.ok (infinite fun finite => other (.text spelled finite))
    · rfl
  | _ => rfl

namespace Cascade

/-! ## Heights below all shapes -/

theorem zValue_of_unset {record : Record Json}
    (unset : ∀ z, get? record "z" = some z → ¬ z.Numeric) : zValue record = .ok 0.0 := by
  refine Json.toFloat_of_not_numeric ?_
  cases found : get? record "z" with
  | none => exact nofun
  | some z => exact unset z found

/-- A whole number is below nought, and below the floor of the height of every record. -/
def Beneath (shapes : Shapes) (k : Int) : Prop :=
  k ≤ -1 ∧ ∀ entry ∈ shapes, ∃ z, zValue entry.2 = .ok z ∧ k ≤ ⌊number z⌋ - 1

theorem le_foldl_min {k start : Int} {xs : List Int} :
    k ≤ xs.foldl min start ↔ k ≤ start ∧ ∀ x ∈ xs, k ≤ x := by
  induction xs generalizing start with
  | nil => simp
  | cons x rest ih => rw [List.foldl_cons, ih, le_min_iff, List.forall_mem_cons, and_assoc]

theorem le_backgroundZ_iff {shapes : Shapes} {z k : Int} (found : backgroundZ shapes = .ok z) :
    k ≤ z ↔ Beneath shapes k := by
  obtain ⟨floors, walk, same⟩ := bind_eq_ok.mp found
  cases same
  rw [Int.le_sub_one_iff, Int.lt_iff_add_one_le, le_foldl_min, forall_mem_of_mapM walk]
  constructor
  · rintro ⟨below, stacked⟩
    refine ⟨by omega, fun entry member => ?_⟩
    cases given : Json.given? entry.2 "z" with
    | none =>
      -- The minimum passes over a record without a height, and starts from the nought it counts as.
      refine ⟨0.0, zValue_of_not_given given, ?_⟩
      rw [number_nought, Int.floor_zero]
      omega
    | some value =>
      obtain ⟨floor, step, low⟩ :=
        stacked entry (List.mem_filter.mpr ⟨member, by rw [given, Option.isSome_some]⟩)
      obtain ⟨x, height, same⟩ := bind_eq_ok.mp step
      cases same
      rw [Binary64.floor_eq] at low
      exact ⟨x, height, Int.le_sub_one_of_lt low⟩
  · rintro ⟨below, each⟩
    refine ⟨by omega, fun entry member => ?_⟩
    obtain ⟨x, height, low⟩ := each entry (List.mem_of_mem_filter member)
    refine ⟨_, bind_eq_ok.mpr ⟨x, height, rfl⟩, ?_⟩
    rw [Binary64.floor_eq]
    exact Int.add_le_of_le_sub_right low

theorem backgroundZ_isGreatest {shapes : Shapes} {z : Int} (found : backgroundZ shapes = .ok z) :
    IsGreatest {k | Beneath shapes k} z :=
  ⟨(le_backgroundZ_iff found).mp le_rfl, fun _ beneath => (le_backgroundZ_iff found).mpr beneath⟩

section Beneath

variable {shapes other : Shapes} {k : Int}

theorem Beneath.lt (beneath : Beneath shapes k) {entry : String × Record Json}
    (member : entry ∈ shapes) : ∃ z, zValue entry.2 = .ok z ∧ (k : ℚ) < number z := by
  obtain ⟨z, height, low⟩ := beneath.2 entry member
  refine ⟨z, height, lt_of_lt_of_le ?_ (Int.floor_le (number z))⟩
  exact_mod_cast Int.lt_of_le_sub_one low

theorem beneath_perm (same : other.Perm shapes) : Beneath other k ↔ Beneath shapes k := by
  simp only [Beneath, same.mem_iff]

end Beneath

end Cascade

namespace Drawing

/-! ## The background of a slide -/

def backgroundBlocks (slide : Node) : List Node :=
  slide.elements.filter (Node.isDivision "background")

/-- A division has one background, which is the first thing in it. It is painted as declared, and
it stands as high as it can below all shapes. -/
def Behind (shapes : Shapes) (declarations : Declarations) (block : Node) : Prop :=
  ∃ layer others z, block.children = layer :: others ∧ backgroundBlocks block = [layer] ∧
    layer.attribute? "style" =
      some (Declarations.text (declarations ++ [⟨"z-index", toString z⟩])) ∧
    IsGreatest {k : Int | Cascade.Beneath shapes k} z ∧
    ∀ entry ∈ shapes, ∃ x, Cascade.zValue entry.2 = .ok x ∧ (z : ℚ) < number x

/-- A division is a slide whose background, if it declares anything, is behind all of its shapes.
A shape whose height is no number counts as one at nought. -/
structure Backed (deck : Deck) (place : Slide × Resolved) (block : Node) : Prop where
  id : block.attribute? "data-slide-id" = some (place.1.id.getD "")
  behind : ∀ declarations : Declarations,
    (backgroundDeclarations place.1 (backgroundOf deck place.2 place.1) :
      Trace NumberError Declarations).outcome = .ok declarations → declarations ≠ [] →
    Behind (shapesOf deck place.2 place.1) declarations block
  unset : ∀ entry ∈ shapesOf deck place.2 place.1,
    (∀ z, get? entry.2 "z" = some z → ¬ z.Numeric) → Cascade.zValue entry.2 = .ok 0.0

theorem elements_drawShapes {c : Context} {shapes : Shapes} {drawn : List Markup}
    (done : (drawShapes c shapes).outcome = .ok drawn) : ∀ m ∈ drawn, ∃ block,
      Page.node? m = some block ∧ block.isDivision "background" = false := by
  rw [outcome_drawShapes] at done
  obtain ⟨found, walk, same⟩ := bind_eq_ok.mp done
  cases same
  refine forall_of_walk walk fun entry _ m step => ?_
  obtain ⟨s, classes, shape, others, children, -, rfl⟩ := box_shape? step
  refine ⟨_, rfl, ?_⟩
  rw [isDivision_division rfl, beq_eq_false_iff_ne]
  rintro rfl
  exact absurd shape (by decide)

theorem behind_division {shapes ordered : Shapes} {declarations : Declarations}
    {layer drawn : List Markup} {attributes : List Attribute} {block : Node}
    (declared : declarations ≠ []) (same : ordered.Perm shapes)
    (below : backgroundLayer declarations ordered = .ok layer)
    (solid : ∀ m ∈ drawn, ∃ block,
      Page.node? m = some block ∧ block.isDivision "background" = false)
    (whole : Page.node? (Markup.division "slide" attributes (layer ++ drawn)) = some block) :
    Behind shapes declarations block := by
  rw [backgroundLayer, if_neg (by simpa using declared)] at below
  obtain ⟨z, height, same'⟩ := bind_eq_ok.mp below
  cases same'
  obtain ⟨own, painted⟩ : ∃ own, Page.node? (Markup.division "background"
      [Declarations.attribute (declarations ++ [⟨"z-index", toString z⟩])] []) = some own :=
    ⟨_, rfl⟩
  have marked : own.isDivision "background" = true := isDivision_division painted "background"
  have others : (drawn.filterMap Page.node?).filter (Node.isDivision "background") = [] := by
    rw [List.filter_eq_nil_iff]
    intro node member
    obtain ⟨m, present, found⟩ := List.mem_filterMap.mp member
    obtain ⟨block, drawn, other⟩ := solid m present
    cases found.symm.trans drawn
    rw [other]
    exact Bool.false_ne_true
  refine ⟨own, drawn.filterMap Page.node?, z, ?_, ?_, ?_, ?_, ?_⟩
  · rw [Page.children_node whole, List.singleton_append, List.filterMap_cons_some painted]
    intro m member
    rcases List.mem_append.mp member with back | shape
    · cases List.mem_singleton.mp back
      exact Option.isSome_of_eq_some painted
    · obtain ⟨block, drawn, -⟩ := solid m shape
      exact Option.isSome_of_eq_some drawn
  · rw [backgroundBlocks, elements_division whole, List.singleton_append,
      List.filterMap_cons_some painted, List.filter_cons_of_pos marked, others]
  · rw [attribute_division painted (by decide)]
    rfl
  · have greatest := Cascade.backgroundZ_isGreatest height
    simpa only [Cascade.beneath_perm same] using greatest
  · have beneath := (Cascade.le_backgroundZ_iff height).mp le_rfl
    exact fun entry member => beneath.lt (same.mem_iff.mpr member)

theorem backed_slide {policy : RenderPolicy} {tokens : Tokens} {deck : Deck}
    {place : Slide × Resolved} {m : Markup} (layered : policy.backgroundMode = .layer)
    (done : (Plan.ofSlide deck place.1 place.2).draw policy tokens = .ok m) :
    Recovers (Backed deck) place m := by
  obtain ⟨ordered, sorted, done⟩ := bind_eq_ok.mp done
  obtain ⟨drawn, walked, done⟩ := bind_eq_ok.mp done
  rw [layered] at done
  obtain ⟨layer, below, same⟩ := bind_eq_ok.mp done
  cases same
  refine ⟨_, rfl, attribute_division rfl (by decide), ?_, fun _ _ => Cascade.zValue_of_unset⟩
  intro declarations reading declared
  rw [outcome_backgroundDeclarations_eq] at reading
  cases reading
  exact behind_division declared (Cascade.sortByZ_perm sorted) below
    (elements_drawShapes walked) rfl

/-- In every slide of a rendered page whose backgrounds are layers, the background is the first
thing and stands as high as it can below all shapes. -/
theorem render_backed (policy : RenderPolicy) (layered : policy.backgroundMode = .layer)
    (document : Json) (html : String) (rendered : (render policy document).outcome = .ok html)
    (filled : html ≠ "") :
    ∃ fields slides deck root, document = .obj fields ∧
      get? (withoutNulls fields) "slides" = some (.arr slides) ∧
      (Deck.readLeniently document : Trace NumberError (Option Deck)).outcome = .ok (some deck) ∧
      Page.read html.toList = some [root] ∧
      List.Forall₂ (Backed deck) (slides.filterMap (located? policy.layoutLookup deck))
        (slideBlocks root) := by
  obtain ⟨fields, slides, deck, drawn, own, given, reading, walked, rfl⟩ :=
    slides_of_render rendered filled
  obtain ⟨root, page, blocks⟩ := slideBlocks_fragment (shows_slides walked)
  have legible : Page.read (fragment policy deck drawn).render.toList = some [root] :=
    page ▸ read_fragment (drawn_slides walked)
  refine ⟨fields, slides, deck, root, own, given, reading, legible, ?_⟩
  rw [blocks]
  exact nodes_of_recovers ((draws_places walked).imp fun _ _ => backed_slide layered)

/-! A slide with a red background and three texts, of which the last has no height and the one
before it one that is no number. -/

def backedShapes : Shapes :=
  [("low", [("type", .str "text"), ("z", .float (-2.5))]),
    ("odd", [("type", .str "text"), ("z", .str "high")]), ("plain", [("type", .str "text")])]

def backedLayout : Record Json :=
  [("bg", .obj [("fill", .str "red")]),
    ("shapes", .obj (backedShapes.map fun entry => (entry.1, .obj entry.2)))]

def backedSlide : Record Json :=
  [("layout", .str "plain")]

def backedDeck : Record Json :=
  [("layouts", .obj [("plain", .obj backedLayout)]), ("slides", .arr [.obj backedSlide])]

def backedPolicy : RenderPolicy :=
  { RenderPolicy.keyed with backgroundMode := .layer }

theorem shapesOf_backed : shapesOf (.ofRecord backedDeck) ⟨none, .ofRecord backedLayout⟩
    (.ofRecord backedSlide) = backedShapes :=
  rfl

theorem zValue_backed : ∀ entry ∈ backedShapes,
    Cascade.zValue entry.2 = .ok (if entry.1 = "low" then -2.5 else 0.0) := by
  intro entry member
  simp only [backedShapes, List.mem_cons, List.not_mem_nil, or_false] at member
  rcases member with rfl | rfl | rfl <;> rfl

theorem number_low : number (-2.5) = -5 / 2 := by
  have bits : Binary64.ofFloat (-2.5) = .finite true (5 * 2 ^ 50) (-51) := by decide +kernel
  rw [number, bits, Binary64.number]
  norm_num [Binary64.signed]

theorem beneath_backed : IsGreatest {k | Cascade.Beneath backedShapes k} (-4) := by
  have low : ⌊number (-2.5)⌋ = -3 := by
    rw [number_low]
    norm_num
  constructor
  · refine ⟨by decide, fun entry member => ⟨_, zValue_backed entry member, ?_⟩⟩
    split
    · rw [low]
      decide
    · rw [number_nought, Int.floor_zero]
      decide
  · rintro k ⟨-, each⟩
    obtain ⟨z, height, below⟩ := each _ List.mem_cons_self
    cases height.symm.trans (zValue_backed _ List.mem_cons_self)
    rw [if_pos rfl, low] at below
    exact below

/-- The layer lies below the lowest of the shapes by more than one, for its height is whole. -/
theorem render_backed_fractional :
    ∃ html root slide layer others,
      (render backedPolicy (.obj backedDeck)).outcome = .ok html ∧ html ≠ "" ∧
      Page.read html.toList = some [root] ∧ slideBlocks root = [slide] ∧
      slide.children = layer :: others ∧
      layer.attribute? "style" = some "background-color: red; z-index: -4;" := by
  have reading : Deck.reading? (.obj backedDeck) = some (.ofRecord backedDeck) := rfl
  have located : located? backedPolicy.layoutLookup (.ofRecord backedDeck) (.obj backedSlide) =
      some (.ofRecord backedSlide, ⟨none, .ofRecord backedLayout⟩) := rfl
  obtain ⟨m, drawn⟩ : ∃ m, (Plan.ofSlide (.ofRecord backedDeck) (.ofRecord backedSlide)
      ⟨none, .ofRecord backedLayout⟩).draw backedPolicy
        (tokensOf backedPolicy (.ofRecord backedDeck)) = .ok m := by
    refine draw_texts fun entry member => ⟨⟨_, zValue_backed entry member⟩, ?_⟩
    rw [shapesOf_backed] at member
    simp only [backedShapes, List.mem_cons, List.not_mem_nil, or_false] at member
    rcases member with rfl | rfl | rfl <;> rfl
  obtain ⟨html, root, slide, rendered, filled, page, only, -⟩ :=
    page_of_place backedPolicy reading rfl rfl
      (List.filterMap_cons_some located) drawn
  obtain ⟨fields, slides, deck, root', own, given, reading', page', each⟩ :=
    render_backed backedPolicy rfl _ html rendered filled
  cases own
  cases given
  rw [Deck.outcome_readLeniently_eq, reading] at reading'
  cases reading'
  cases page.symm.trans page'
  rw [only, List.filterMap_cons_some located] at each
  obtain ⟨backed, -⟩ := List.forall₂_cons.mp each
  obtain ⟨layer, others, z, first, -, style, greatest, -⟩ :=
    backed.behind [⟨"background-color", "red"⟩] rfl (List.cons_ne_nil _ _)
  cases greatest.unique beneath_backed
  exact ⟨html, root, slide, layer, others, rendered, filled, page, only, first, style⟩

end Drawing

end DeckPress
