import DeckPress.Proofs.Drawing.Outcome
import DeckPress.Proofs.Markup.Reader
import DeckPress.Proofs.Style.Sheet

/-!
What a rendered deck is to a plain reader: one division, its stylesheet, and the slides, with the
tags of the templates and no others. Nothing that a deck brings in adds a tag or ends one.
-/

namespace DeckPress.Drawing

def slideTags : List (String × List String) :=
  [("div", ["class", "data-slide-id"]),
    ("div", ["class", "data-slide-id", "style"]),
    ("div", ["class", "style"]),
    ("div", ["class", "data-shape-id", "data-shape-type", "style"]),
    ("img", ["src", "alt", "style"]),
    ("ul", []),
    ("li", ["style"]),
    ("svg", ["viewBox", "preserveAspectRatio"]),
    ("path", ["d", "fill", "stroke", "stroke-width"]),
    ("path", ["d", "fill", "stroke", "stroke-width", "stroke-opacity", "stroke-linecap",
      "stroke-linejoin"]),
    ("path", ["d", "fill", "stroke", "stroke-width", "stroke-opacity", "stroke-linecap",
      "stroke-linejoin", "stroke-dasharray"])]

def deckTags : List (String × List String) :=
  ("div", ["class", "data-deck-id"]) :: ("style", []) :: slideTags

/-- Markup that could stand in a slide. -/
def Drawn (m : Markup) : Prop :=
  ∀ part ∈ m.parts, ∀ tag, Page.tag? part = some tag → tag ∈ slideTags

theorem drawn_leaf {m : Markup} (alone : m.parts = [m])
    (own : ∀ tag, Page.tag? m = some tag → tag ∈ slideTags) : Drawn m := by
  intro part member
  rw [alone, List.mem_singleton] at member
  exact member ▸ own

theorem drawn_text (s : String) : Drawn (.text s) :=
  drawn_leaf rfl nofun

theorem drawn_image {attributes : List Attribute}
    (own : ("img", attributes.map (·.name.text)) ∈ slideTags) : Drawn (.image attributes) :=
  drawn_leaf rfl fun _ known => Option.some.inj known ▸ own

theorem drawn_path {attributes : List Attribute}
    (own : ("path", attributes.map (·.name.text)) ∈ slideTags) : Drawn (.path attributes) :=
  drawn_leaf rfl fun _ known => Option.some.inj known ▸ own

theorem drawn_element {tag : Tag} {attributes : List Attribute} {children : List Markup}
    (own : (tag.name, attributes.map (·.name.text)) ∈ slideTags)
    (inside : ∀ child ∈ children, Drawn child) : Drawn (.element tag attributes children) := by
  intro part member known same
  rw [Markup.parts, List.mem_cons, Markup.mem_partsAll] at member
  rcases member with rfl | ⟨child, present, member⟩
  · exact Option.some.inj same ▸ own
  · exact inside child present part member known same

/-! ## Shapes -/

theorem drawn_shape (classes id : String) (s : Shape) (ds : Declarations)
    {children : List Markup} (inside : ∀ child ∈ children, Drawn child) :
    Drawn (Markup.division classes (identity id s ++ [ds.attribute]) children) :=
  drawn_element (show ("div", ["class", "data-shape-id", "data-shape-type", "style"]) ∈ slideTags
    by decide) inside

theorem drawn_textBlock (c : Context) (id : String) (s : Shape) : Drawn (text c id s) := by
  apply drawn_shape
  exact List.forall_mem_singleton.mpr (drawn_text _)

theorem drawn_imageBlock (id : String) (s : Shape) : Drawn (image id s) := by
  apply drawn_shape
  have picture (fit : Declarations) : Drawn (.image [⟨.source, s.imageSrc.getD ""⟩,
      ⟨.alternative, s.alt.getD ""⟩, fit.attribute]) :=
    drawn_image (show ("img", ["src", "alt", "style"]) ∈ slideTags by decide)
  simp only [List.forall_mem_cons]
  exact ⟨drawn_text _, picture _, drawn_text _, nofun⟩

theorem drawn_list (c : Context) (id : String) (s : Shape) : Drawn (list c id s) := by
  apply drawn_shape
  rw [List.forall_mem_singleton]
  refine drawn_element (show ("ul", []) ∈ slideTags by decide) ?_
  intro item member
  obtain ⟨value, -, rfl⟩ := List.mem_map.mp member
  exact drawn_element (show ("li", ["style"]) ∈ slideTags by decide)
    (List.forall_mem_singleton.mpr (drawn_text _))

theorem strokeDetails_names (s : Shape) :
    (strokeDetails s).map (·.name.text) =
        ["stroke-opacity", "stroke-linecap", "stroke-linejoin"] ∨
      (strokeDetails s).map (·.name.text) =
        ["stroke-opacity", "stroke-linecap", "stroke-linejoin", "stroke-dasharray"] := by
  unfold strokeDetails
  cases s.strokeDashes with
  | none => exact Or.inl rfl
  | some dashes =>
    cases empty : dashes.isEmpty with
    | true => exact Or.inl (by simp [empty, AttributeName.text])
    | false => exact Or.inr (by simp [empty, AttributeName.text])

/-- The attributes of a path are those of one of three templates. -/
theorem strokeAttributes_names {tokens : Tokens} {s : Shape} {stroke : List Attribute}
    (written : strokeAttributes tokens s = .ok stroke) :
    ("path", "d" :: "fill" :: stroke.map (·.name.text)) ∈ slideTags := by
  obtain ⟨drawn, -, same⟩ := bind_eq_ok.mp written
  cases same
  cases drawn with
  | false => exact show ("path", ["d", "fill", "stroke", "stroke-width"]) ∈ slideTags by decide
  | true =>
    rw [if_pos rfl, List.map_append]
    rcases strokeDetails_names s with names | names
    · rw [names]
      exact show ("path", ["d", "fill", "stroke", "stroke-width", "stroke-opacity",
        "stroke-linecap", "stroke-linejoin"]) ∈ slideTags by decide
    · rw [names]
      exact show ("path", ["d", "fill", "stroke", "stroke-width", "stroke-opacity",
        "stroke-linecap", "stroke-linejoin", "stroke-dasharray"]) ∈ slideTags by decide

theorem drawn_svg {tokens : Tokens} {ratio : Float} {s : Shape} {family : String}
    {picture : Markup} (done : svg? tokens ratio s family = .ok (some picture)) :
    Drawn picture := by
  obtain ⟨w, -, done⟩ := bind_eq_ok.mp done
  obtain ⟨h, -, done⟩ := bind_eq_ok.mp done
  obtain ⟨p, -, done⟩ := bind_eq_ok.mp done
  split at done
  · cases done
  · obtain ⟨stroke, written, done⟩ := bind_eq_ok.mp done
    cases done
    refine drawn_element (show ("svg", ["viewBox", "preserveAspectRatio"]) ∈ slideTags by decide) ?_
    simp only [List.forall_mem_cons]
    exact ⟨drawn_text _, drawn_path (strokeAttributes_names written), drawn_text _, nofun⟩

theorem drawn_overlay (c : Context) (s : Shape) : ∀ child ∈ overlay c s, Drawn child := by
  unfold overlay
  dsimp only
  split
  · nofun
  · rw [List.forall_mem_singleton]
    exact drawn_element (show ("div", ["class", "style"]) ∈ slideTags by decide)
      (List.forall_mem_singleton.mpr (drawn_text _))

theorem drawn_vector {c : Context} {id : String} {s : Shape} {family : String} {m : Markup}
    (done : vector? c id s family = .ok (some m)) : Drawn m := by
  obtain ⟨found, picture, done⟩ := bind_eq_ok.mp done
  cases found with
  | none => cases done
  | some outline =>
    cases done
    apply drawn_shape
    rw [List.forall_mem_cons]
    exact ⟨drawn_svg picture, drawn_overlay c s⟩

theorem drawn_shape? {c : Context} {id : String} {record : Json} {m : Markup}
    (done : (shape? c id record).outcome = .ok (some m)) : Drawn m := by
  rw [outcome_shape?] at done
  split at done
  · cases done
  · split at done
    · cases done
    · cases done
      exact drawn_textBlock c id _
    · cases done
      exact drawn_imageBlock id _
    · cases done
      exact drawn_list c id _
    · exact drawn_vector done

/-! ## Slides -/

theorem drawn_shapes {c : Context} {shapes : Shapes} {drawn : List Markup}
    (done : (drawShapes c shapes).outcome = .ok drawn) : ∀ m ∈ drawn, Drawn m := by
  rw [outcome_drawShapes] at done
  obtain ⟨found, walk, same⟩ := bind_eq_ok.mp done
  cases same
  exact forall_of_walk walk fun _ _ _ => drawn_shape?

theorem drawn_backgroundLayer {declarations : Declarations} {shapes : Shapes}
    {layer : List Markup} (done : backgroundLayer declarations shapes = .ok layer) :
    ∀ m ∈ layer, Drawn m := by
  unfold backgroundLayer at done
  split at done
  · cases done
    nofun
  · obtain ⟨z, -, same⟩ := bind_eq_ok.mp done
    cases same
    rw [List.forall_mem_singleton]
    exact drawn_element (show ("div", ["class", "style"]) ∈ slideTags by decide) nofun

theorem drawn_slide {policy : RenderPolicy} {tokens : Tokens} {deck : Deck} {found : Resolved}
    {slide : Slide} {m : Markup}
    (done : (drawSlide policy tokens deck found slide).outcome = .ok m) : Drawn m := by
  rw [outcome_drawSlide] at done
  obtain ⟨ordered, -, done⟩ := bind_eq_ok.mp done
  obtain ⟨drawn, shapes, done⟩ := bind_eq_ok.mp done
  obtain ⟨declarations, -, done⟩ := bind_eq_ok.mp done
  dsimp only at done
  split at done
  · obtain ⟨layer, below, done⟩ := bind_eq_ok.mp done
    cases done
    refine drawn_element (show ("div", ["class", "data-slide-id"]) ∈ slideTags by decide) ?_
    exact List.forall_mem_append.mpr ⟨drawn_backgroundLayer below, drawn_shapes shapes⟩
  · cases done
    exact drawn_element (show ("div", ["class", "data-slide-id", "style"]) ∈ slideTags by decide)
      (drawn_shapes shapes)

theorem drawn_slide? {policy : RenderPolicy} {tokens : Tokens} {deck : Deck} {raw : Json}
    {m : Markup} (done : (slide? policy tokens deck raw).outcome = .ok (some m)) : Drawn m := by
  rw [outcome_slide?] at done
  split at done
  · cases done
  · split at done
    · obtain ⟨drawn, slide, same⟩ := bind_eq_ok.mp done
      cases same
      exact drawn_slide slide
    · cases done

/-! ## Decks -/

theorem drawn_slides {policy : RenderPolicy} {deck : Deck} {slides : List Json}
    {drawn : List Markup} (done : (drawSlides policy deck slides).outcome = .ok drawn) :
    ∀ m ∈ drawn, Drawn m := by
  rw [outcome_drawSlides] at done
  obtain ⟨found, walk, kept⟩ := bind_eq_ok.mp done
  cases kept
  exact forall_of_walk walk fun _ _ _ => drawn_slide?

theorem document_fragment {policy : RenderPolicy} {document : Json} {m : Markup}
    (done : (document? policy document).outcome = .ok (some m)) :
    ∃ deck slides, m = fragment policy deck slides ∧ ∀ slide ∈ slides, Drawn slide := by
  rw [outcome_document?] at done
  obtain ⟨read, -, done⟩ := bind_eq_ok.mp done
  cases read with
  | none => cases done
  | some deck =>
    dsimp only at done
    rw [outcome_deck?] at done
    split at done
    · cases done
    · split at done
      · cases done
      · obtain ⟨drawn, walked, same⟩ := bind_eq_ok.mp done
        cases same
        exact ⟨deck, drawn, rfl, drawn_slides walked⟩

def afterSheet (slides : List Markup) : List Markup :=
  .text "\n  " :: slides ++ [.text "\n"]

theorem ofMarkup_fragment (policy : RenderPolicy) (deck : Deck) (slides : List Markup) :
    Page.ofMarkup (fragment policy deck slides) =
      [.element "div" [("class", Text.escapeChars policy.deckClass.text.toList),
          ("data-deck-id", Text.escapeChars (deck.id.getD "").toList)]
        (.text "\n  ".toList ::
          .element "style" [] [.text (Style.sheet policy.deckClass deck).toList] ::
          (Page.placeAll [] (afterSheet slides)).reverse)] := by
  have children : Page.placeAll [] (.text "\n  " :: .style (Style.sheet policy.deckClass deck) ::
      afterSheet slides) = Page.placeAll [] (afterSheet slides) ++
        .element "style" [] [.text (Style.sheet policy.deckClass deck).toList] ::
          [.text "\n  ".toList] :=
    Page.placeAll_append [] "style" [] _ _ (afterSheet slides)
  have root : Page.ofMarkup (fragment policy deck slides) =
      [.element "div" [("class", Text.escapeChars policy.deckClass.text.toList),
          ("data-deck-id", Text.escapeChars (deck.id.getD "").toList)]
        (Page.placeAll [] (.text "\n  " :: .style (Style.sheet policy.deckClass deck) ::
          afterSheet slides)).reverse] := rfl
  rw [root, children, List.reverse_append]
  rfl

theorem drawn_afterSheet {slides : List Markup} (drawn : ∀ slide ∈ slides, Drawn slide) :
    ∀ m ∈ afterSheet slides, Drawn m := by
  unfold afterSheet
  rw [List.forall_mem_append, List.forall_mem_cons, List.forall_mem_singleton]
  exact ⟨⟨drawn_text _, drawn⟩, drawn_text _⟩

theorem tags_afterSheet {slides : List Markup} (drawn : ∀ slide ∈ slides, Drawn slide) :
    ∀ tag ∈ (Markup.partsAll (afterSheet slides)).filterMap Page.tag?, tag ∈ slideTags := by
  intro tag member
  obtain ⟨part, inside, known⟩ := List.mem_filterMap.mp member
  obtain ⟨m, present, inside⟩ := Markup.mem_partsAll.mp inside
  exact drawn_afterSheet drawn m present part inside tag known

theorem legible_fragment {policy : RenderPolicy} {deck : Deck} {slides : List Markup}
    (drawn : ∀ slide ∈ slides, Drawn slide) (rules : String)
    (member : .style rules ∈ (fragment policy deck slides).parts) : '<' ∉ rules.toList := by
  have inside : .style rules ∈ Markup.partsAll (.text "\n  " ::
      .style (Style.sheet policy.deckClass deck) :: afterSheet slides) :=
    (List.mem_cons.mp member).resolve_left nofun
  obtain ⟨m, present, inside⟩ := Markup.mem_partsAll.mp inside
  simp only [List.mem_cons] at present
  rcases present with rfl | rfl | present
  · cases List.mem_singleton.mp inside
  · cases List.mem_singleton.mp inside
    exact Style.tagless_sheet policy.deckClass deck '<' (List.mem_cons_self ..)
  · exact absurd (drawn_afterSheet drawn m present _ inside _ rfl) (by decide)

theorem tagsAll_fragment {policy : RenderPolicy} {deck : Deck} {slides : List Markup}
    (drawn : ∀ slide ∈ slides, Drawn slide) :
    ∀ tag ∈ Page.tagsAll (Page.ofMarkup (fragment policy deck slides)), tag ∈ deckTags := by
  have split : Page.tagsAll (Page.ofMarkup (fragment policy deck slides)) =
      ("div", ["class", "data-deck-id"]) :: ("style", []) ::
        (Markup.partsAll (afterSheet slides)).filterMap Page.tag? := by
    rw [Page.tagsAll_ofMarkup]
    rfl
  rw [split, deckTags]
  intro tag member
  rcases List.mem_cons.mp member with rfl | member
  · exact List.mem_cons_self
  rcases List.mem_cons.mp member with rfl | member
  · exact List.mem_cons_of_mem _ List.mem_cons_self
  · exact List.mem_cons_of_mem _ (List.mem_cons_of_mem _ (tags_afterSheet drawn tag member))

def frontChars (policy : RenderPolicy) (deck : Deck) : List Char :=
  '<' :: Markup.tagChars "div" [⟨.classes, policy.deckClass.text⟩, ⟨.deckId, deck.id.getD ""⟩] ++
    ">\n  <style>".toList ++ (Style.sheet policy.deckClass deck).toList ++ "</style>\n  ".toList

theorem chars_fragment (policy : RenderPolicy) (deck : Deck) (slides : List Markup) :
    (fragment policy deck slides).chars =
      frontChars policy deck ++ Markup.childrenChars slides ++ "\n</div>".toList := by
  have blanks : Text.escapeChars ['\n', ' ', ' '] = ['\n', ' ', ' '] ∧
      Text.escapeChars ['\n'] = ['\n'] := by decide
  simp [fragment, frontChars, Markup.division, Markup.chars_element, Markup.childrenChars,
    Markup.childrenChars_append, Markup.chars_text, Markup.chars_style, Tag.name, blanks]

theorem fragment_filled (policy : RenderPolicy) (deck : Deck) (slides : List Markup) :
    (fragment policy deck slides).render ≠ "" := by
  intro empty
  have chars := congrArg String.toList empty
  rw [Markup.render, String.toList_ofList] at chars
  cases chars

theorem childrenChars_of_render {policy : RenderPolicy} {deck : Deck} {slides others : List Markup}
    (same : (fragment policy deck slides).render = (fragment policy deck others).render) :
    Markup.childrenChars slides = Markup.childrenChars others := by
  have chars := String.ofList_injective same
  rw [chars_fragment, chars_fragment] at chars
  exact List.append_cancel_left (List.append_cancel_right chars)

theorem read_fragment {policy : RenderPolicy} {deck : Deck} {slides : List Markup}
    (drawn : ∀ slide ∈ slides, Drawn slide) :
    Page.read (fragment policy deck slides).render.toList =
      some (Page.ofMarkup (fragment policy deck slides)) := by
  rw [Markup.render, String.toList_ofList]
  exact Page.read_chars _ (legible_fragment drawn)

/-- A plain reader takes a rendered deck for the tree that was drawn: one division with the
stylesheet in front, no other style element, and only the tags of the templates, in which no
attribute comes twice. -/
theorem read_render (policy : RenderPolicy) (document : Json) (html : String)
    (rendered : (render policy document).outcome = .ok html) (filled : html ≠ "") :
    ∃ markup attributes rules others,
      (document? policy document).outcome = .ok (some markup) ∧
      Page.read html.toList = some (Page.ofMarkup markup) ∧
      Page.ofMarkup markup = [.element "div" attributes
        (.text "\n  ".toList :: .element "style" [] [.text rules] :: others)] ∧
      (∀ tag ∈ Page.tagsAll (Page.ofMarkup markup), tag ∈ deckTags ∧
        tag.1 ∈ ["div", "style", "img", "ul", "li", "svg", "path"] ∧ tag.2.Nodup) ∧
      ∀ tag ∈ Page.tagsAll others, tag.1 ≠ "style" := by
  have tidy : ∀ tag ∈ deckTags,
      tag.1 ∈ ["div", "style", "img", "ul", "li", "svg", "path"] ∧ tag.2.Nodup := by decide
  have styleless : ∀ tag ∈ slideTags, tag.1 ≠ "style" := by decide
  rw [outcome_render] at rendered
  obtain ⟨found, done, same⟩ := bind_eq_ok.mp rendered
  cases same
  cases found with
  | none => exact absurd rfl filled
  | some markup =>
    obtain ⟨deck, slides, rfl, drawn⟩ := document_fragment done
    refine ⟨_, _, _, _, done, read_fragment drawn, ofMarkup_fragment policy deck slides, ?_, ?_⟩
    · intro tag member
      have known := tagsAll_fragment drawn tag member
      exact ⟨known, tidy tag known⟩
    · intro tag member
      rw [Page.tagsAll_placeAll] at member
      exact styleless tag (tags_afterSheet drawn tag member)

/-! A deck whose id, font, shape id and text try to end what they stand in. -/

def hostileTitle : Record Json :=
  [("type", .str "text"), ("text", .str "</div><img onerror=\"run()\">")]

def hostileLayout : Record Json :=
  [("shapes", .obj [("\" onclick=\"run()", .obj hostileTitle)])]

def hostileSlide : Record Json :=
  [("id", .str "1\"><script>"), ("layout", .str "plain")]

def hostileDeck : Record Json :=
  [("id", .str "</div>"), ("fonts", .obj [("body", .str "</style><script>")]),
    ("layouts", .obj [("plain", .obj hostileLayout)]), ("slides", .arr [.obj hostileSlide])]

theorem read_render_hostile :
    ∃ html attributes children, (render .keyed (.obj hostileDeck)).outcome = .ok html ∧
      html ≠ "" ∧ Page.read html.toList = some [.element "div" attributes children] := by
  have only : shapesOf (Deck.ofRecord hostileDeck) ⟨none, Layout.ofRecord hostileLayout⟩
      (Slide.ofRecord hostileSlide) = [("\" onclick=\"run()", hostileTitle)] := rfl
  have level : Cascade.zValue hostileTitle = .ok 0.0 := rfl
  have sorted : Cascade.sortByZ [("\" onclick=\"run()", hostileTitle)] =
      .ok [("\" onclick=\"run()", hostileTitle)] := by
    simp [Cascade.sortByZ, level]
  obtain ⟨drawn, done⟩ : ∃ drawn, (drawSlide .keyed (tokensOf .keyed (Deck.ofRecord hostileDeck))
      (Deck.ofRecord hostileDeck) ⟨none, Layout.ofRecord hostileLayout⟩
      (Slide.ofRecord hostileSlide)).outcome = .ok drawn := by
    rw [outcome_drawSlide, only, sorted]
    exact ⟨_, rfl⟩
  have slide : (slide? .keyed (tokensOf .keyed (Deck.ofRecord hostileDeck))
      (Deck.ofRecord hostileDeck) (.obj hostileSlide)).outcome = .ok (some drawn) := by
    rw [outcome_slide?]
    exact bind_eq_ok.mpr ⟨drawn, done, rfl⟩
  have document : (document? .keyed (.obj hostileDeck)).outcome =
      .ok (some (fragment .keyed (Deck.ofRecord hostileDeck) [drawn])) := by
    rw [outcome_document?]
    refine bind_eq_ok.mpr ⟨some (Deck.ofRecord hostileDeck), rfl, ?_⟩
    dsimp only
    rw [outcome_deck?]
    refine bind_eq_ok.mpr ⟨[drawn], ?_, rfl⟩
    rw [outcome_drawSlides, List.mapM_cons, slide]
    rfl
  have rendered : (render .keyed (.obj hostileDeck)).outcome =
      .ok (fragment .keyed (Deck.ofRecord hostileDeck) [drawn]).render := by
    rw [outcome_render, document]
    rfl
  have filled := fragment_filled .keyed (Deck.ofRecord hostileDeck) [drawn]
  obtain ⟨markup, attributes, rules, others, -, page, form, -⟩ :=
    read_render .keyed _ _ rendered filled
  rw [form] at page
  exact ⟨_, attributes, _, rendered, filled, page⟩

end DeckPress.Drawing
