import DeckPress.Proofs.Drawing.Backmost
import DeckPress.Proofs.Json.Wording
import DeckPress.Proofs.Style.Inline
import DeckPress.Style.Box

/-!
The styles in a rendered page. Each style is read as the declarations that were drawn, with their
properties and values in order, exactly when none of the values reaches past its semicolon. Of an
image that means that the backslashes at its end come in pairs, since one that is left over takes
the quote that should close the address.
-/

namespace DeckPress

namespace Style

/-! ## Properties -/

theorem named_box (s : Shape) : ∀ d ∈ box s, Named d := by
  simp +decide only [box, Named, List.forall_mem_append, List.forall_mem_map, List.forall_mem_cons,
    implies_true, and_true]

theorem named_alignment (s : Shape) (horizontal : Horizontal) (vertical : Vertical) :
    ∀ d ∈ alignment s horizontal vertical, Named d := by
  unfold alignment
  cases found : alignment? s.textAlign s.textValign horizontal.word vertical.word with
  | none => exact nofun
  | some ds =>
    obtain ⟨justify, -, found⟩ := Option.bind_eq_some_iff.mp found
    obtain ⟨align, -, found⟩ := Option.bind_eq_some_iff.mp found
    cases found
    simp +decide only [Option.getD_some, Named, List.forall_mem_cons, and_true]

theorem named_font (tokens : Tokens) (s : Shape) : ∀ d ∈ font tokens s, Named d := by
  simp +decide only [font, Named, List.forall_mem_append, List.forall_mem_map, implies_true,
    and_true]

theorem named_background (b : Background) : ∀ d ∈ background b, Named d := by
  unfold background
  dsimp only
  split <;> split <;>
    simp +decide only [Named, List.forall_mem_append, List.forall_mem_cons, and_true]

theorem contained_whole (n : Int) : Contained (toString n) := by
  have foreign : ∀ c ∈ ['"', '\'', ';'], c ∉ Text.numeralChars := by
    simp only [List.forall_mem_cons]
    exact ⟨by decide, by decide, by decide, nofun⟩
  exact contained_of_lacks fun c mark => Decimal.not_mem_whole (foreign c mark) n

end Style

/-- A node with the style of some declarations. It is read as them exactly when all of their values
are contained. -/
def Styled (ds : Declarations) (node : Node) : Prop :=
  ∃ style, node.attribute? "style" = some style ∧
    (Style.styleDeclarations? style = some ds ↔ ∀ d ∈ ds, Style.Contained d.value)

/-- A node that is painted as a background declares. What can go wrong is the colour, the image
when there is one, and how it fits. -/
def Painted (b : Background) (ds : Declarations) (node : Node) : Prop :=
  ∃ style, node.attribute? "style" = some style ∧
    (Style.styleDeclarations? style = some ds ↔ Style.Contained (b.fill.getD "") ∧
      (b.image.getD "" ≠ "" → Even (Style.backslashesAtEnd (b.image.getD "").toList) ∧
        Style.Contained (b.imageFit.getD "")))

theorem styled_written (element : String) {attributes : List Attribute} (inside : List Node)
    {ds : Declarations} (named : ∀ d ∈ ds, Style.Named d)
    (own : attributes.find? (fun a => a.name.text = "style") = some ds.attribute) :
    Styled ds (.element element (attributes.map Page.written) inside) := by
  refine ⟨Declarations.text ds, ?_, Style.styleDeclarations?_text named⟩
  rw [Page.attribute_written, own]
  rfl

theorem Styled.painted {b : Background} {ds : Declarations} {node : Node}
    (styled : Styled ds node) (others : Declarations) (same : ds = Style.background b ++ others)
    (plain : ∀ d ∈ others, Style.Contained d.value) : Painted b ds node := by
  obtain ⟨style, own, reads⟩ := styled
  refine ⟨style, own, ?_⟩
  rw [reads, same, List.forall_mem_append, Style.forall_mem_background_iff]
  exact and_iff_left plain

namespace Drawing

open Record

/-! ## Shapes -/

def blockStyle (tokens : Tokens) (shown : Shown) : Declarations :=
  match shown.kind with
  | .text => Style.box shown.shape ++ Style.alignment shown.shape .left .top ++
      Style.font tokens shown.shape
  | .list => Style.box shown.shape ++ Style.alignment shown.shape .left .middle
  | .image | .vector _ => Style.box shown.shape

def fitStyle (s : Shape) : Declarations :=
  (Style.filled s.imageFit).map fun fit => ⟨"object-fit", fit⟩

def overlayStyle (tokens : Tokens) (s : Shape) : Declarations :=
  Style.alignment s .center .middle ++
    if (Style.font tokens s).isEmpty then [⟨"text-align", "center"⟩] else Style.font tokens s

/-- A block with the styles of a shape: its own, and those of what is in it. -/
structure StyledShape (tokens : Tokens) (shown : Shown) (block : Node) : Prop where
  id : block.attribute? "data-shape-id" = some shown.id
  own : Styled (blockStyle tokens shown) block
  pictures : shown.kind = .image → ∃ picture,
    block.elements.filter (Node.isNamed "img") = [picture] ∧ Styled (fitStyle shown.shape) picture
  items : shown.kind = .list →
    ∀ item ∈ itemBlocks block, Styled (Style.font tokens shown.shape) item
  overlay : ∀ family, shown.kind = .vector family →
    ∀ label ∈ overlayBlocks block, Styled (overlayStyle tokens shown.shape) label

theorem named_overlay (tokens : Tokens) (s : Shape) :
    ∀ d ∈ overlayStyle tokens s, Style.Named d := by
  rw [overlayStyle, List.forall_mem_append]
  refine ⟨Style.named_alignment s .center .middle, ?_⟩
  split
  · decide
  · exact Style.named_font tokens s

theorem styled_shapeBlock {classes id : String} {s : Shape} {ds : Declarations}
    {children : List Markup} {block : Node} (named : ∀ d ∈ ds, Style.Named d)
    (drawn : Page.node? (Markup.division classes (identity id s ++ [ds.attribute]) children) =
      some block) : Styled ds block := by
  cases drawn
  exact styled_written _ _ named rfl

theorem styled_text (c : Context) (id : String) (s : Shape) :
    Recovers (StyledShape c.tokens) ⟨id, s, .text⟩ (text c id s) := by
  refine ⟨_, rfl, id_block rfl, styled_shapeBlock ?_ rfl, nofun, nofun, nofun⟩
  simp only [blockStyle, List.forall_mem_append]
  exact ⟨⟨Style.named_box s, Style.named_alignment s .left .top⟩, Style.named_font c.tokens s⟩

theorem styled_image (tokens : Tokens) (id : String) (s : Shape) :
    Recovers (StyledShape tokens) ⟨id, s, .image⟩ (image id s) := by
  refine ⟨_, rfl, id_block rfl, styled_shapeBlock (Style.named_box s) rfl, fun _ => ?_, nofun,
    nofun⟩
  rw [elements_division rfl]
  refine ⟨_, rfl, styled_written _ _ ?_ rfl⟩
  simp +decide only [fitStyle, Style.Named, List.forall_mem_map, implies_true]

theorem styled_list (c : Context) (id : String) (s : Shape) :
    Recovers (StyledShape c.tokens) ⟨id, s, .list⟩ (list c id s) := by
  refine ⟨_, rfl, id_block rfl, styled_shapeBlock ?_ rfl, nofun, fun _ => ?_, nofun⟩
  · simp only [blockStyle, List.forall_mem_append]
    exact ⟨Style.named_box s, Style.named_alignment s .left .middle⟩
  · intro item member
    obtain ⟨inside, listed, member⟩ := List.mem_flatMap.mp member
    have drawn := List.mem_of_mem_filter listed
    rw [elements_division rfl, List.mem_filterMap] at drawn
    obtain ⟨m, only, drawn⟩ := drawn
    cases List.mem_singleton.mp only
    have inner := List.mem_of_mem_filter member
    rw [Page.elements_node drawn, List.mem_filterMap] at inner
    obtain ⟨m, written, inner⟩ := inner
    obtain ⟨value, -, rfl⟩ := List.mem_map.mp written
    cases inner
    exact styled_written _ _ (Style.named_font c.tokens s) rfl

theorem styled_overlay {c : Context} {s : Shape} {m : Markup} {label : Node}
    (member : m ∈ overlay c s) (drawn : Page.node? m = some label) :
    Styled (overlayStyle c.tokens s) label := by
  unfold overlay at member
  dsimp only at member
  split at member
  · cases member
  · cases List.mem_singleton.mp member
    cases drawn
    exact styled_written _ _ (named_overlay c.tokens s) rfl

theorem styled_vector {c : Context} {id : String} {s : Shape} {family : String}
    {found : Option Markup} (done : vector? c id s family = .ok found) :
    Option.Rel (fun _ => Recovers (StyledShape c.tokens) ⟨id, s, .vector family⟩)
      (Family.ofName? family) found := by
  obtain ⟨outline, picture, same⟩ := bind_eq_ok.mp done
  cases same
  have pictured := svg?_outline picture
  generalize Family.ofName? family = known at pictured ⊢
  cases pictured with
  | none => exact .none
  | some svg =>
    obtain ⟨attributes, children, rfl⟩ := svg
    refine .some ⟨_, rfl, id_block rfl, styled_shapeBlock (Style.named_box s) rfl, nofun, nofun,
      ?_⟩
    intro _ _ label member
    obtain ⟨inside, division⟩ := List.mem_filter.mp member
    rw [elements_division rfl, List.mem_filterMap] at inside
    obtain ⟨m, present, drawn⟩ := inside
    rcases List.mem_cons.mp present with rfl | lies
    · rw [Node.isDivision, Page.isNamed_node drawn, Bool.and_eq_true] at division
      exact absurd division.1 (by decide)
    · exact styled_overlay lies drawn

/-- Of the shapes exactly those that are shown are drawn, each in its own styles. -/
theorem styled_shapes {c : Context} {shapes : Shapes} {drawn : List Markup}
    (done : (drawShapes c shapes).outcome = .ok drawn) :
    List.Forall₂ (StyledShape c.tokens) (shapes.filterMap (shown? c.policy))
      (drawn.filterMap Page.node?) :=
  recovers_shapes (recovers_shape? (styled_text c _) (styled_image c.tokens _) (styled_list c _)
    styled_vector) done

/-! ## Slides -/

/-- A slide with the styles of its shapes in their order and that of its background, which is the
slide's own or that of a layer in it. -/
structure StyledSlide (policy : RenderPolicy) (deck : Deck) (place : Slide × Resolved)
    (block : Node) : Prop where
  id : block.attribute? "data-slide-id" = some (place.1.id.getD "")
  shapes : ∃ ordered, Cascade.sortByZ (shapesOf deck place.2 place.1) = .ok ordered ∧
    List.Forall₂ (StyledShape (tokensOf policy deck)) (ordered.filterMap (shown? policy))
      (shapeBlocks block)
  inline : policy.backgroundMode = .inline →
    ∀ b, Background.read (.obj (backgroundOf deck place.2 place.1)) = .ok b →
      Painted b (Style.background b) block
  layer : policy.backgroundMode = .layer →
    ∀ b, Background.read (.obj (backgroundOf deck place.2 place.1)) = .ok b →
      Style.background b ≠ [] → ∃ layer, ∃ z : Int, backgroundBlocks block = [layer] ∧
        Painted b (Style.background b ++ [⟨"z-index", toString z⟩]) layer

theorem painted_of_read {fields : Record Json} {b : Background}
    (read : Background.read (.obj fields) = .ok b) : painted fields = Style.background b := by
  rw [painted, read]

theorem styled_slide {policy : RenderPolicy} {deck : Deck} {place : Slide × Resolved} {m : Markup}
    (done : (Plan.ofSlide deck place.1 place.2).draw policy (tokensOf policy deck) = .ok m) :
    Recovers (StyledSlide policy deck) place m := by
  obtain ⟨ordered, drawn, block, sorted, walked, own, -, id, blocks⟩ := shapeBlocks_draw done
  have shapes := blocks ▸ styled_shapes walked
  refine ⟨block, own, id, ⟨ordered, sorted, shapes⟩, ?_, ?_⟩
  · intro inline b read
    obtain ⟨_, -, drawing⟩ := bind_eq_ok.mp done
    obtain ⟨_, -, drawing⟩ := bind_eq_ok.mp drawing
    rw [inline] at drawing
    cases drawing
    cases own
    have same := painted_of_read read
    rw [← same]
    refine Styled.painted (styled_written _ _ ?_ rfl) [] ?_ nofun
    · rw [same]
      exact Style.named_background b
    · rw [same, List.append_nil]
  · intro layered b read declared
    obtain ⟨block', own', backed⟩ := backed_slide layered done
    cases own.symm.trans own'
    obtain ⟨layer, -, z, -, only, style, -⟩ := backed.behind _
      (outcome_backgroundDeclarations_eq _ _) (painted_of_read read ▸ declared)
    rw [painted_of_read read] at style
    refine ⟨layer, z, only, Styled.painted ⟨_, style, Style.styleDeclarations?_text ?_⟩ _ rfl ?_⟩
    · rw [List.forall_mem_append]
      exact ⟨Style.named_background b, by
        simp +decide only [Style.Named, List.forall_mem_singleton]⟩
    · simpa using Style.contained_whole z

/-- In a rendered page every style reads as it was drawn exactly when its values are contained. -/
theorem render_styled (policy : RenderPolicy) (document : Json) (html : String)
    (rendered : (render policy document).outcome = .ok html) (filled : html ≠ "") :
    ∃ fields slides deck root, document = .obj fields ∧
      get? (withoutNulls fields) "slides" = some (.arr slides) ∧
      (Deck.readLeniently document : Trace NumberError (Option Deck)).outcome = .ok (some deck) ∧
      Page.read html.toList = some [root] ∧
      List.Forall₂ (StyledSlide policy deck)
        (slides.filterMap (located? policy.layoutLookup deck)) (slideBlocks root) := by
  obtain ⟨fields, slides, deck, drawn, own, given, reading, walked, rfl⟩ :=
    slides_of_render rendered filled
  obtain ⟨root, page, blocks⟩ := slideBlocks_fragment (shows_slides walked)
  have legible : Page.read (fragment policy deck drawn).render.toList = some [root] :=
    page ▸ read_fragment (drawn_slides walked)
  refine ⟨fields, slides, deck, root, own, given, reading, legible, ?_⟩
  rw [blocks]
  exact nodes_of_recovers ((draws_places walked).imp fun _ _ => styled_slide)

/-! A slide without shapes on some background. -/

def backdropLayout (bg : Record Json) : Record Json :=
  [("bg", .obj bg)]

def backdropDeck (bg : Record Json) : Record Json :=
  [("layouts", .obj [("plain", .obj (backdropLayout bg))]), ("slides", .arr [.obj backedSlide])]

def backdropPlace (bg : Record Json) : Slide × Resolved :=
  (.ofRecord backedSlide, ⟨none, .ofRecord (backdropLayout bg)⟩)

def backdropStyle (bg : Record Json) : Declarations :=
  painted (backgroundOf (.ofRecord (backdropDeck bg)) (backdropPlace bg).2 (backdropPlace bg).1)

/-- The page of the deck has one slide, and its style is that of the background. -/
def PageOfBackdrop (bg : Record Json) (html : String) (slide : Node) : Prop :=
  (render .keyed (.obj (backdropDeck bg))).outcome = .ok html ∧ html ≠ "" ∧
    ∃ root, Page.read html.toList = some [root] ∧ slideBlocks root = [slide] ∧
      slide.attribute? "style" = some (Declarations.text (backdropStyle bg))

theorem page_backdrop (bg : Record Json)
    (reading : Deck.reading? (.obj (backdropDeck bg)) = some (.ofRecord (backdropDeck bg)))
    (located : located? RenderPolicy.keyed.layoutLookup (.ofRecord (backdropDeck bg))
      (.obj backedSlide) = some (backdropPlace bg))
    (bare : shapesOf (.ofRecord (backdropDeck bg)) (backdropPlace bg).2 (backdropPlace bg).1 = []) :
    ∃ html slide, PageOfBackdrop bg html slide := by
  obtain ⟨m, drawn⟩ : ∃ m, (Plan.ofSlide (.ofRecord (backdropDeck bg)) (backdropPlace bg).1
      (backdropPlace bg).2).draw .keyed (tokensOf .keyed (.ofRecord (backdropDeck bg))) = .ok m :=
    draw_texts (by simp [bare])
  obtain ⟨html, root, slide, rendered, filled, page, only, own⟩ :=
    page_of_place .keyed reading rfl rfl (List.filterMap_cons_some located) drawn
  refine ⟨html, slide, rendered, filled, root, page, only, ?_⟩
  obtain ⟨_, -, drawn⟩ := bind_eq_ok.mp drawn
  obtain ⟨_, -, drawn⟩ := bind_eq_ok.mp drawn
  cases drawn
  exact attribute_division own (by decide)

def quotedImage : Record Json :=
  [("image", .str "it's.png")]

theorem render_styled_quoted :
    ∃ html slide style, PageOfBackdrop quotedImage html slide ∧
      slide.attribute? "style" = some style ∧
      Style.styleDeclarations? style = some [⟨"background-image", "url('it%27s.png')"⟩,
        ⟨"background-size", "cover"⟩, ⟨"background-position", "center"⟩,
        ⟨"background-repeat", "no-repeat"⟩] := by
  obtain ⟨html, slide, shown⟩ := page_backdrop quotedImage rfl rfl rfl
  obtain ⟨rendered, filled, root, page, only, -⟩ := id shown
  obtain ⟨fields, slides, deck, root', own, given, reading, page', each⟩ :=
    render_styled .keyed _ html rendered filled
  cases own
  cases given
  cases reading
  cases page.symm.trans page'
  rw [only] at each
  obtain ⟨styled, -⟩ := List.forall₂_cons.mp each
  obtain ⟨style, own, reads⟩ := styled.inline rfl (.ofRecord quotedImage) rfl
  exact ⟨html, slide, style, shown, own, reads.mpr (by decide)⟩

def endlessImage : Record Json :=
  [("image", .str "bg\\")]

def wideFill : Record Json :=
  [("fill", .str "red; position: fixed")]

/-- A backslash at the end of an image takes the closing quote, and nothing can be read behind it;
a semicolon in a colour adds a declaration. -/
theorem render_not_styled :
    (∃ html slide style, PageOfBackdrop endlessImage html slide ∧
      slide.attribute? "style" = some style ∧ Style.styleDeclarations? style = none) ∧
    ∃ html slide style, PageOfBackdrop wideFill html slide ∧
      slide.attribute? "style" = some style ∧
      backdropStyle wideFill = [⟨"background-color", "red; position: fixed"⟩] ∧
      Style.styleDeclarations? style =
        some [⟨"background-color", "red"⟩, ⟨"position", "fixed"⟩] := by
  constructor
  · obtain ⟨html, slide, shown⟩ := page_backdrop endlessImage rfl rfl rfl
    obtain ⟨-, -, root, -, -, own⟩ := id shown
    exact ⟨html, slide, _, shown, own, by decide +kernel⟩
  · obtain ⟨html, slide, shown⟩ := page_backdrop wideFill rfl rfl rfl
    obtain ⟨-, -, root, -, -, own⟩ := id shown
    exact ⟨html, slide, _, shown, own, rfl, by decide +kernel⟩

end Drawing

end DeckPress
