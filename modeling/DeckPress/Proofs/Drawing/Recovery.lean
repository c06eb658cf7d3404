import DeckPress.Proofs.Cascade.Height
import DeckPress.Proofs.Drawing.Integrity
import DeckPress.Proofs.Drawing.Plan
import DeckPress.Proofs.Entity.Lenient
import DeckPress.Proofs.Markup.Content

/-!
What a reader recovers of a rendered deck. The divisions of slides are those of the slides that
can be read and have a layout, in order and with their ids; in each of them the blocks of shapes
are those of the merged and patched shapes that can be drawn, from the lowest to the highest; and
the text in a block is the text of the shape with its placeholders replaced.
-/

namespace DeckPress.Drawing

open Record Interpolation

/-! ## What there is to recover -/

def ShapeKind.drawable : ShapeKind → Bool
  | .vector family => (Family.ofName? family).isSome
  | _ => true

structure Shown where
  id : String
  shape : Shape
  kind : ShapeKind

/-- A shape record that can be read and has a kind to be drawn as. -/
def shown? (policy : RenderPolicy) (entry : String × Record Json) : Option Shown :=
  match Shape.read (.obj entry.2) with
  | .error _ => none
  | .ok shape =>
    ((classify policy shape).filter ShapeKind.drawable).map fun kind => ⟨entry.1, shape, kind⟩

def bulleted (bullet : Option String) (item : String) : String :=
  match bullet with
  | none | some "" => item
  | some bullet => bullet ++ " " ++ item

/-! ## What is found in a page -/

def slideBlocks (root : Node) : List Node :=
  root.elements.filter (Node.isDivision "slide")

/-- What carries the id of a shape in a slide. -/
def shapeBlocks (slide : Node) : List Node :=
  slide.elements.filter fun block => (block.attribute? "data-shape-id").isSome

def itemBlocks (block : Node) : List Node :=
  (block.elements.filter (Node.isNamed "ul")).flatMap fun list =>
    list.elements.filter (Node.isNamed "li")

def overlayBlocks (block : Node) : List Node :=
  block.elements.filter (Node.isDivision "shape text-shape")

/-- A block shows a shape: it carries the shape's id, and its text is that of the shape. -/
structure ShowsShape (values : Record Json) (shown : Shown) (block : Node) : Prop where
  id : block.attribute? "data-shape-id" = some shown.id
  text : shown.kind = .text →
    block.text? = some (interpolate (shown.shape.text.getD "") values)
  items : shown.kind = .list → (itemBlocks block).map Node.text? =
    shown.shape.items.map fun item =>
      some (interpolate (bulleted shown.shape.bullet item.styleText) values)
  overlay : ∀ family, shown.kind = .vector family → (overlayBlocks block).map Node.text? =
    if interpolate (shown.shape.text.getD "") values = "" then []
    else [some (interpolate (shown.shape.text.getD "") values)]

/-- A division shows a slide: it carries the slide's id, and in it are the shapes that are drawn,
in the order of their heights. -/
structure ShowsSlide (policy : RenderPolicy) (deck : Deck) (place : Slide × Resolved)
    (block : Node) : Prop where
  id : block.attribute? "data-slide-id" = some (place.1.id.getD "")
  shapes : ∃ ordered, Cascade.sortByZ (shapesOf deck place.2 place.1) = .ok ordered ∧
    List.Forall₂ (ShowsShape place.1.values) (ordered.filterMap (shown? policy))
      (shapeBlocks block)

/-- What was drawn of something is read back as a block that shows it. -/
def Recovers {α : Type} (shows : α → Node → Prop) (x : α) (m : Markup) : Prop :=
  ∃ block, Page.node? m = some block ∧ shows x block

theorem nodes_of_recovers {α : Type} {shows : α → Node → Prop} {xs : List α} {ms : List Markup}
    (recovered : List.Forall₂ (Recovers shows) xs ms) :
    List.Forall₂ shows xs (ms.filterMap Page.node?) := by
  induction recovered with
  | nil => exact .nil
  | cons first _ ih =>
    obtain ⟨block, drawn, shown⟩ := first
    rw [List.filterMap_cons_some drawn]
    exact .cons shown ih

theorem filter_of_shows {α : Type} {shows : α → Node → Prop} {marked : Node → Bool} {xs : List α}
    {blocks : List Node} (shown : List.Forall₂ shows xs blocks)
    (mark : ∀ x block, shows x block → marked block = true) : blocks.filter marked = blocks := by
  induction shown with
  | nil => rfl
  | cons first _ ih => rw [List.filter_cons_of_pos (mark _ _ first), ih]

/-! ## Divisions -/

section Divisions

variable {classes : String} {attributes : List Attribute} {children : List Markup} {node : Node}

theorem elements_division
    (drawn : Page.node? (Markup.division classes attributes children) = some node) :
    node.elements = children.filterMap Page.node? :=
  Page.elements_node drawn

theorem isDivision_division
    (drawn : Page.node? (Markup.division classes attributes children) = some node)
    (other : String) : node.isDivision other = (classes == other) := by
  have own : node.attribute? "class" = some classes := Page.attribute_node drawn "class"
  rw [Node.isDivision, Page.isNamed_node drawn, own]
  simp [Tag.name]

theorem attribute_division
    (drawn : Page.node? (Markup.division classes attributes children) = some node)
    {name : String} (other : name ≠ "class") : node.attribute? name =
      (attributes.find? fun a => a.name.text = name).map (·.value) := by
  have skipped : AttributeName.text .classes ≠ name := fun same => other same.symm
  refine (Page.attribute_node drawn name).trans ?_
  rw [List.find?_cons_of_neg (by simp [skipped])]

theorem id_block {id : String} {s : Shape}
    (drawn : Page.node? (Markup.division classes (identity id s ++ attributes) children) =
      some node) : node.attribute? "data-shape-id" = some id := by
  rw [attribute_division drawn (by decide)]
  rfl

end Divisions

/-! ## Shapes -/

theorem shows_text (c : Context) (id : String) (s : Shape) :
    Recovers (ShowsShape c.values) ⟨id, s, .text⟩ (text c id s) := by
  refine ⟨_, rfl, id_block rfl, ?_, nofun, nofun⟩
  intro _
  exact Page.text_node rfl

theorem shows_image (values : Record Json) (id : String) (s : Shape) :
    Recovers (ShowsShape values) ⟨id, s, .image⟩ (image id s) :=
  ⟨_, rfl, id_block rfl, nofun, nofun, nofun⟩

theorem itemText_eq (c : Context) (s : Shape) (item : Json) :
    itemText c s item = interpolate (bulleted s.bullet item.styleText) c.values := by
  unfold itemText bulleted
  dsimp only
  cases s.bullet with
  | none => rw [String.empty_append]
  | some bullet =>
    by_cases empty : bullet = ""
    · subst empty
      simp
    · simp

theorem texts_items {α : Type} {style : Attribute} {f : α → String} {xs : List α} {node : Node}
    (drawn : Page.node? (.element .ul [] (xs.map fun x => .element .li [style] [.text (f x)])) =
      some node) :
    (node.elements.filter (Node.isNamed "li")).map Node.text? = xs.map fun x => some (f x) := by
  rw [Page.elements_node drawn]
  clear drawn
  induction xs with
  | nil => rfl
  | cons x rest ih =>
    obtain ⟨item, drawn⟩ : ∃ item, Page.node? (.element .li [style] [.text (f x)]) = some item :=
      ⟨_, rfl⟩
    have listed : item.isNamed "li" = true := Page.isNamed_node drawn "li"
    rw [List.map_cons, List.filterMap_cons_some drawn, List.filter_cons_of_pos listed,
      List.map_cons, Page.text_node drawn, ih, List.map_cons]

theorem shows_list (c : Context) (id : String) (s : Shape) :
    Recovers (ShowsShape c.values) ⟨id, s, .list⟩ (list c id s) := by
  obtain ⟨block, drawn⟩ : ∃ block, Page.node? (list c id s) = some block := ⟨_, rfl⟩
  refine ⟨block, drawn, id_block drawn, nofun, ?_, nofun⟩
  intro _
  obtain ⟨inside, listed⟩ : ∃ inside, Page.node? (.element .ul [] (s.items.map fun item =>
      .element .li [Declarations.attribute (Style.font c.tokens s)]
        [.text (itemText c s item)])) = some inside := ⟨_, rfl⟩
  have only : block.elements = [inside] :=
    (elements_division drawn).trans (List.filterMap_cons_some listed)
  have named : inside.isNamed "ul" = true := Page.isNamed_node listed "ul"
  rw [itemBlocks, only, List.filter_cons_of_pos named, List.filter_nil, List.flatMap_singleton,
    texts_items listed]
  simp only [itemText_eq]

theorem svg?_outline {tokens : Tokens} {ratio : Float} {s : Shape} {family : String}
    {found : Option Markup} (done : svg? tokens ratio s family = .ok found) :
    Option.Rel (fun (_ : Family) picture =>
      ∃ attributes children, picture = Markup.element .svg attributes children)
      (Family.ofName? family) found := by
  obtain ⟨w, -, done⟩ := bind_eq_ok.mp done
  obtain ⟨h, -, done⟩ := bind_eq_ok.mp done
  obtain ⟨p, -, done⟩ := bind_eq_ok.mp done
  split at done
  · rename_i unknown
    cases done
    rw [unknown]
    exact .none
  · rename_i known
    obtain ⟨stroke, -, done⟩ := bind_eq_ok.mp done
    cases done
    rw [known]
    exact .some ⟨_, _, rfl⟩

theorem texts_overlay (c : Context) (s : Shape) :
    (((overlay c s).filterMap Page.node?).filter (Node.isDivision "shape text-shape")).map
        Node.text? =
      if interpolate (s.text.getD "") c.values = "" then []
      else [some (interpolate (s.text.getD "") c.values)] := by
  unfold overlay
  dsimp only
  split
  · rfl
  · generalize Style.alignment s .center .middle ++ _ = declarations
    obtain ⟨block, drawn⟩ : ∃ block, Page.node? (Markup.division "shape text-shape"
        [Declarations.attribute declarations] [.text (interpolate (s.text.getD "") c.values)]) =
          some block := ⟨_, rfl⟩
    have marked : block.isDivision "shape text-shape" = true :=
      isDivision_division drawn "shape text-shape"
    rw [List.filterMap_cons_some drawn, List.filterMap_nil, List.filter_cons_of_pos marked,
      List.filter_nil, List.map_singleton, Page.text_node drawn]

/-- A vector shape is drawn exactly when its family has an outline. -/
theorem shows_vector {c : Context} {id : String} {s : Shape} {family : String}
    {found : Option Markup} (done : vector? c id s family = .ok found) :
    Option.Rel (fun _ => Recovers (ShowsShape c.values) ⟨id, s, .vector family⟩)
      (Family.ofName? family) found := by
  obtain ⟨outline, picture, same⟩ := bind_eq_ok.mp done
  cases same
  -- The family alone decides whether there is a picture, and with it a block.
  have pictured := svg?_outline picture
  generalize Family.ofName? family = known at pictured ⊢
  cases pictured with
  | none => exact .none
  | some svg =>
    obtain ⟨attributes, children, rfl⟩ := svg
    obtain ⟨block, drawn⟩ : ∃ block, Page.node? (Markup.division "shape svg-shape"
        (identity id s ++ [Declarations.attribute (Style.box s)])
        (.element .svg attributes children :: overlay c s)) = some block := ⟨_, rfl⟩
    refine .some ⟨block, drawn, id_block drawn, nofun, nofun, ?_⟩
    intro _ _
    obtain ⟨svg, inside⟩ : ∃ svg, Page.node? (.element .svg attributes children) = some svg :=
      ⟨_, rfl⟩
    have other : svg.isDivision "shape text-shape" = false := by
      rw [Node.isDivision, Page.isNamed_node inside]
      rfl
    rw [overlayBlocks, elements_division drawn, List.filterMap_cons_some inside,
      List.filter_cons_of_neg (Bool.eq_false_iff.mp other), texts_overlay]

/-- Of the shapes exactly those that are shown are drawn, so what holds of a block of each kind
holds of what is drawn. -/
theorem recovers_shape? {shows : Shown → Node → Prop} {c : Context}
    {entry : String × Record Json} {found : Option Markup}
    (texts : ∀ s, Recovers shows ⟨entry.1, s, .text⟩ (text c entry.1 s))
    (images : ∀ s, Recovers shows ⟨entry.1, s, .image⟩ (image entry.1 s))
    (lists : ∀ s, Recovers shows ⟨entry.1, s, .list⟩ (list c entry.1 s))
    (vectors : ∀ {s family found}, vector? c entry.1 s family = .ok found →
      Option.Rel (fun _ => Recovers shows ⟨entry.1, s, .vector family⟩)
        (Family.ofName? family) found)
    (done : (shape? c entry.1 (.obj entry.2)).outcome = .ok found) :
    Option.Rel (Recovers shows) (shown? c.policy entry) found := by
  rw [outcome_shape?] at done
  unfold shown?
  cases read : Shape.read (.obj entry.2) with
  | error refusal =>
    rw [read] at done
    cases done
    exact .none
  | ok s =>
    rw [read] at done
    dsimp only at done ⊢
    cases kind : classify c.policy s with
    | none =>
      rw [kind] at done
      cases done
      exact .none
    | some kind' =>
      rw [kind] at done
      cases kind' with
      | text =>
        cases done
        exact .some (texts s)
      | image =>
        cases done
        exact .some (images s)
      | list =>
        cases done
        exact .some (lists s)
      | vector family =>
        have drawn := vectors done
        rw [Option.filter_some, ShapeKind.drawable]
        generalize Family.ofName? family = known at drawn ⊢
        cases drawn with
        | none => exact .none
        | some block => exact .some block

theorem recovers_shapes {α : Type} {shows : α → Node → Prop} {c : Context}
    {what? : String × Record Json → Option α} {shapes : Shapes} {drawn : List Markup}
    (each : ∀ {entry found}, (shape? c entry.1 (.obj entry.2)).outcome = .ok found →
      Option.Rel (Recovers shows) (what? entry) found)
    (done : (drawShapes c shapes).outcome = .ok drawn) :
    List.Forall₂ shows (shapes.filterMap what?) (drawn.filterMap Page.node?) := by
  rw [outcome_drawShapes] at done
  obtain ⟨found, walk, same⟩ := bind_eq_ok.mp done
  cases same
  have kept : List.Forall₂ (Recovers shows) (shapes.filterMap what?)
      (found.filterMap fun m => m) :=
    List.rel_filterMap (fun _ _ step => each step) (mapM_eq_ok_iff.mp walk)
  exact nodes_of_recovers kept

theorem shows_shape? {c : Context} {entry : String × Record Json} {found : Option Markup}
    (done : (shape? c entry.1 (.obj entry.2)).outcome = .ok found) :
    Option.Rel (Recovers (ShowsShape c.values)) (shown? c.policy entry) found :=
  recovers_shape? (shows_text c entry.1) (shows_image c.values entry.1) (shows_list c entry.1)
    shows_vector done

theorem shows_shapes {c : Context} {shapes : Shapes} {drawn : List Markup}
    (done : (drawShapes c shapes).outcome = .ok drawn) :
    List.Forall₂ (ShowsShape c.values) (shapes.filterMap (shown? c.policy))
      (drawn.filterMap Page.node?) :=
  recovers_shapes shows_shape? done

/-! ## Slides -/

theorem unmarked_backgroundLayer {declarations : Declarations} {shapes : Shapes}
    {layer : List Markup} (done : backgroundLayer declarations shapes = .ok layer) :
    (layer.filterMap Page.node?).filter
      (fun block => (block.attribute? "data-shape-id").isSome) = [] := by
  unfold backgroundLayer at done
  split at done
  · cases done
    rfl
  · obtain ⟨z, -, same⟩ := bind_eq_ok.mp done
    cases same
    generalize declarations ++ _ = style
    obtain ⟨block, drawn⟩ : ∃ block, Page.node? (Markup.division "background"
        [Declarations.attribute style] []) = some block := ⟨_, rfl⟩
    have unmarked : block.attribute? "data-shape-id" = none := attribute_division drawn (by decide)
    rw [List.filterMap_cons_some drawn, List.filterMap_nil,
      List.filter_cons_of_neg (by simp [unmarked]), List.filter_nil]

/-- A slide is drawn as a division with its id, in which the blocks of shapes are what was drawn of
its shapes in order. -/
theorem shapeBlocks_draw {policy : RenderPolicy} {tokens : Tokens} {deck : Deck} {slide : Slide}
    {found : Resolved} {m : Markup}
    (done : (Plan.ofSlide deck slide found).draw policy tokens = .ok m) :
    ∃ ordered drawn block, Cascade.sortByZ (shapesOf deck found slide) = .ok ordered ∧
      (drawShapes { policy, tokens, values := slide.values } ordered).outcome = .ok drawn ∧
      Page.node? m = some block ∧ block.isDivision "slide" = true ∧
      block.attribute? "data-slide-id" = some (slide.id.getD "") ∧
      shapeBlocks block = drawn.filterMap Page.node? := by
  obtain ⟨ordered, sorted, done⟩ := bind_eq_ok.mp done
  obtain ⟨drawn, walked, done⟩ := bind_eq_ok.mp done
  -- The background is the one division in a slide that carries no id of a shape.
  have marked : (drawn.filterMap Page.node?).filter
      (fun block => (block.attribute? "data-shape-id").isSome) = drawn.filterMap Page.node? :=
    filter_of_shows (shows_shapes walked) fun _ _ shown => by rw [shown.id, Option.isSome_some]
  split at done
  · obtain ⟨layer, below, same⟩ := bind_eq_ok.mp done
    cases same
    refine ⟨ordered, drawn, _, sorted, walked, rfl, isDivision_division rfl "slide",
      attribute_division rfl (by decide), ?_⟩
    rw [shapeBlocks, elements_division rfl, List.filterMap_append, List.filter_append,
      unmarked_backgroundLayer below, List.nil_append, marked]
  · cases done
    refine ⟨ordered, drawn, _, sorted, walked, rfl, isDivision_division rfl "slide",
      attribute_division rfl (by decide), ?_⟩
    rw [shapeBlocks, elements_division rfl, marked]

theorem shows_slide {policy : RenderPolicy} {tokens : Tokens} {deck : Deck} {slide : Slide}
    {found : Resolved} {m : Markup}
    (done : (Plan.ofSlide deck slide found).draw policy tokens = .ok m) :
    Recovers (fun place block => block.isDivision "slide" = true ∧
      ShowsSlide policy deck place block) (slide, found) m := by
  obtain ⟨ordered, drawn, block, sorted, walked, own, division, id, blocks⟩ := shapeBlocks_draw done
  exact ⟨block, own, division, id, ordered, sorted, blocks ▸ shows_shapes walked⟩

theorem draws_places {policy : RenderPolicy} {deck : Deck} {slides : List Json}
    {drawn : List Markup} (done : (drawSlides policy deck slides).outcome = .ok drawn) :
    List.Forall₂ (fun place m =>
        (Plan.ofSlide deck place.1 place.2).draw policy (tokensOf policy deck) = .ok m)
      (slides.filterMap (located? policy.layoutLookup deck)) drawn := by
  rw [outcome_drawSlides_eq] at done
  rwa [filterMap_plan?, mapM_eq_ok_iff, List.forall₂_map_left_iff] at done

theorem shows_slides {policy : RenderPolicy} {deck : Deck} {slides : List Json}
    {drawn : List Markup} (done : (drawSlides policy deck slides).outcome = .ok drawn) :
    List.Forall₂ (fun place block => block.isDivision "slide" = true ∧
      ShowsSlide policy deck place block)
      (slides.filterMap (located? policy.layoutLookup deck)) (drawn.filterMap Page.node?) :=
  nodes_of_recovers ((draws_places done).imp fun _ _ => shows_slide)

/-! ## Decks -/

theorem slideBlocks_fragment {policy : RenderPolicy} {deck : Deck} {drawn : List Markup}
    {places : List (Slide × Resolved)}
    (shown : List.Forall₂ (fun place block => block.isDivision "slide" = true ∧
      ShowsSlide policy deck place block) places (drawn.filterMap Page.node?)) :
    ∃ root, Page.ofMarkup (fragment policy deck drawn) = [root] ∧
      slideBlocks root = drawn.filterMap Page.node? := by
  obtain ⟨root, whole⟩ : ∃ root, Page.node? (fragment policy deck drawn) = some root := ⟨_, rfl⟩
  refine ⟨root, Page.ofMarkup_node whole, ?_⟩
  have elements : root.elements = .element "style" [] [.text (Style.sheet policy.deckClass
      deck).toList] :: (drawn ++ [Markup.text "\n"]).filterMap Page.node? := elements_division whole
  have sheet (children : List Node) :
      (Node.element "style" [] children).isDivision "slide" = false := rfl
  rw [slideBlocks, elements, List.filter_cons_of_neg (by rw [sheet]; exact Bool.false_ne_true),
    List.filterMap_append, List.filterMap_cons_none rfl, List.filterMap_nil, List.append_nil]
  exact filter_of_shows shown fun _ _ both => both.1

theorem slides_of_render {policy : RenderPolicy} {document : Json} {html : String}
    (rendered : (render policy document).outcome = .ok html) (filled : html ≠ "") :
    ∃ fields slides deck drawn, document = .obj fields ∧
      get? (withoutNulls fields) "slides" = some (.arr slides) ∧
      (Deck.readLeniently document : Trace NumberError (Option Deck)).outcome = .ok (some deck) ∧
      (drawSlides policy deck slides).outcome = .ok drawn ∧
      html = (fragment policy deck drawn).render := by
  rw [outcome_render] at rendered
  obtain ⟨markup, done, same⟩ := bind_eq_ok.mp rendered
  cases same
  rw [outcome_document?] at done
  obtain ⟨read, reading, drawing⟩ := bind_eq_ok.mp done
  cases read with
  | none =>
    cases drawing
    exact absurd rfl filled
  | some deck =>
    dsimp only at drawing
    rw [outcome_deck?] at drawing
    split at drawing
    · cases drawing
      exact absurd rfl filled
    · rename_i slides given
      split at drawing
      · cases drawing
        exact absurd rfl filled
      · obtain ⟨drawn, walked, same⟩ := bind_eq_ok.mp drawing
        cases same
        have known := reading
        rw [Deck.outcome_readLeniently_eq] at known
        obtain ⟨fields, rfl, -, own⟩ := Deck.reading?_eq_some (Except.ok.inj known)
        rw [own, Deck.slides_ofRecord] at given
        exact ⟨fields, slides, deck, drawn, rfl, given, reading, walked, rfl⟩

theorem page_of_place (policy : RenderPolicy) {document : Json} {deck : Deck} {slides : List Json}
    {place : Slide × Resolved} {m : Markup} (reading : Deck.reading? document = some deck)
    (accepted : (policy.checkVersion && !supported deck.version) = false)
    (given : deck.slides = some slides)
    (only : slides.filterMap (located? policy.layoutLookup deck) = [place])
    (drawn : (Plan.ofSlide deck place.1 place.2).draw policy (tokensOf policy deck) = .ok m) :
    ∃ html root block, (render policy document).outcome = .ok html ∧ html ≠ "" ∧
      Page.read html.toList = some [root] ∧ slideBlocks root = [block] ∧
      Page.node? m = some block := by
  have plans : slides.filterMap (plan? policy.layoutLookup deck) =
      [Plan.ofSlide deck place.1 place.2] := by
    rw [filterMap_plan?, only, List.map_singleton]
  have walk : [Plan.ofSlide deck place.1 place.2].mapM
      (Plan.draw policy (tokensOf policy deck)) = .ok [m] :=
    mapM_eq_ok_iff.mpr (.cons drawn .nil)
  have walked : (drawSlides policy deck slides).outcome = .ok [m] := by
    rw [outcome_drawSlides_eq, plans, walk]
  have rendered : (render policy document).outcome = .ok (fragment policy deck [m]).render :=
    render_of_plans reading accepted (by rw [plans?, given, Option.map_some, plans]) walk
  obtain ⟨_, _, block, -, -, own, -⟩ := shapeBlocks_draw drawn
  obtain ⟨root, page, blocks⟩ := slideBlocks_fragment (shows_slides walked)
  refine ⟨_, root, block, rendered, fragment_filled policy deck [m],
    page ▸ read_fragment (drawn_slides walked), ?_, own⟩
  rw [blocks, List.filterMap_cons_some own, List.filterMap_nil]

/-- A rendered deck is read back as it was drawn: a division for each slide that can be read and
has a layout, in their order, each with the shapes of its slide that can be drawn. -/
theorem render_recovers (policy : RenderPolicy) (document : Json) (html : String)
    (rendered : (render policy document).outcome = .ok html) (filled : html ≠ "") :
    ∃ fields slides deck root, document = .obj fields ∧
      get? (withoutNulls fields) "slides" = some (.arr slides) ∧
      (Deck.readLeniently document : Trace NumberError (Option Deck)).outcome = .ok (some deck) ∧
      Page.read html.toList = some [root] ∧
      List.Forall₂ (ShowsSlide policy deck)
        (slides.filterMap (located? policy.layoutLookup deck)) (slideBlocks root) := by
  obtain ⟨fields, slides, deck, drawn, own, given, reading, walked, rfl⟩ :=
    slides_of_render rendered filled
  have shown := shows_slides walked
  obtain ⟨root, page, blocks⟩ := slideBlocks_fragment shown
  have legible : Page.read (fragment policy deck drawn).render.toList = some [root] :=
    page ▸ read_fragment (drawn_slides walked)
  refine ⟨fields, slides, deck, root, own, given, reading, legible, ?_⟩
  rw [blocks]
  exact shown.imp fun _ _ both => both.2

/-! A deck with one slide that can be drawn, of whose shapes one has no kind. -/

def agendaTitle : Record Json :=
  [("type", .str "text"), ("text", .str "{who} & co")]

def agendaPoints : Record Json :=
  [("type", .str "list"), ("bullet", .str "-"), ("items", .arr [.str "<b>", .int 2])]

def agendaBox : Record Json :=
  [("type", .str "rectangle"), ("text", .str "{who}")]

def agendaShapes : Shapes :=
  [("title", agendaTitle), ("other", [("type", .str "cloud")]), ("points", agendaPoints),
    ("box", agendaBox)]

def agendaLayout : Record Json :=
  [("shapes", .obj (agendaShapes.map fun entry => (entry.1, .obj entry.2)))]

def agendaSlide : Record Json :=
  [("id", .str "\"1\""), ("layout", .str "plain"), ("meta", .obj [("who", .str "Ada")])]

def agendaDeck : Record Json :=
  [("layouts", .obj [("plain", .obj agendaLayout)]),
    ("slides", .arr [.obj agendaSlide, .null, .obj [("layout", .str "lost")]])]

theorem sorted_agenda : Cascade.sortByZ (shapesOf (Deck.ofRecord agendaDeck)
    ⟨none, Layout.ofRecord agendaLayout⟩ (Slide.ofRecord agendaSlide)) = .ok agendaShapes := by
  have merged : shapesOf (Deck.ofRecord agendaDeck) ⟨none, Layout.ofRecord agendaLayout⟩
      (Slide.ofRecord agendaSlide) = agendaShapes := rfl
  have level : ∀ entry ∈ agendaShapes, Cascade.zValue entry.2 = .ok 0.0 := by
    intro entry member
    simp only [agendaShapes, List.mem_cons, List.not_mem_nil, or_false] at member
    rcases member with rfl | rfl | rfl | rfl <;> rfl
  rw [merged]
  exact Cascade.sortByZ_level level

theorem render_recovers_agenda :
    ∃ html root slide title points box,
      (render .keyed (.obj agendaDeck)).outcome = .ok html ∧ html ≠ "" ∧
      Page.read html.toList = some [root] ∧ slideBlocks root = [slide] ∧
      slide.attribute? "data-slide-id" = some "\"1\"" ∧ shapeBlocks slide = [title, points, box] ∧
      title.text? = some "Ada & co" ∧
      (itemBlocks points).map Node.text? = [some "- <b>", some "- 2"] ∧
      (overlayBlocks box).map Node.text? = [some "Ada"] := by
  obtain ⟨m, done⟩ : ∃ m, (Plan.ofSlide (Deck.ofRecord agendaDeck) (Slide.ofRecord agendaSlide)
      ⟨none, Layout.ofRecord agendaLayout⟩).draw .keyed
        (tokensOf .keyed (Deck.ofRecord agendaDeck)) = .ok m :=
    ⟨_, bind_eq_ok.mpr ⟨agendaShapes, sorted_agenda, rfl⟩⟩
  have drawn : (deck? .keyed (Deck.ofRecord agendaDeck)).outcome =
      .ok (some (fragment .keyed (Deck.ofRecord agendaDeck) [m])) := by
    rw [outcome_deck?_eq]
    exact bind_eq_ok.mpr ⟨[m], mapM_eq_ok_iff.mpr (.cons done .nil), rfl⟩
  have rendered : (render .keyed (.obj agendaDeck)).outcome =
      .ok (fragment .keyed (Deck.ofRecord agendaDeck) [m]).render := by
    rw [outcome_render, outcome_document?]
    exact bind_eq_ok.mpr ⟨_, drawn, rfl⟩
  have filled := fragment_filled .keyed (Deck.ofRecord agendaDeck) [m]
  obtain ⟨fields, slides, deck, root, own, given, reading, page, shown⟩ :=
    render_recovers .keyed _ _ rendered filled
  cases own
  cases given
  cases reading
  have only : List.Forall₂ (ShowsSlide .keyed (Deck.ofRecord agendaDeck))
      [(Slide.ofRecord agendaSlide, ⟨none, Layout.ofRecord agendaLayout⟩)] (slideBlocks root) :=
    shown
  have kinds : agendaShapes.filterMap (shown? .keyed) =
      [⟨"title", Shape.ofRecord agendaTitle, .text⟩, ⟨"points", Shape.ofRecord agendaPoints, .list⟩,
        ⟨"box", Shape.ofRecord agendaBox, .vector "rectangle"⟩] := rfl
  have values : (Slide.ofRecord agendaSlide).values = [("who", .str "Ada")] := rfl
  obtain ⟨slide, _, shows, no_more, slides⟩ := List.forall₂_cons_left_iff.mp only
  cases no_more
  obtain ⟨ordered, sorted, blocks⟩ := shows.shapes
  cases sorted_agenda.symm.trans sorted
  rw [kinds] at blocks
  obtain ⟨title, _, first, others, split⟩ := List.forall₂_cons_left_iff.mp blocks
  obtain ⟨points, _, second, last, rfl⟩ := List.forall₂_cons_left_iff.mp others
  obtain ⟨box, _, third, no_more, rfl⟩ := List.forall₂_cons_left_iff.mp last
  cases no_more
  refine ⟨_, root, slide, title, points, box, rendered, filled, page, slides, shows.id, split,
    ?_, ?_, ?_⟩
  · rw [first.text rfl, values]
    cbv
  · rw [second.items rfl, values]
    cbv
  · rw [third.overlay _ rfl, values]
    cbv

end DeckPress.Drawing
