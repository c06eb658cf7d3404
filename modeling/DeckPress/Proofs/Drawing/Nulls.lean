import DeckPress.Proofs.Drawing.Wording

/-!
Nulls do not surface as text. In a deck whose texts have not the word for null, a null may stand in
the place of any field, any placeholder's value, any dash and any record: it counts as absent, or
what it stands in is refused. It is seen only inside a value that is written as a whole, and the
word comes about only where texts meet; where neither happens the word does not stand in what is
rendered.
-/

namespace DeckPress.Drawing

open Record Text

/-- A slide into which nothing brings the word for null but a text that has it: its shapes are
clear, and so are those ids that shapes in lists have given themselves. -/
structure ClearSlide (policy : RenderPolicy) (deck : Deck) (slide : Slide) (found : Resolved) :
    Prop where
  shapes : ∀ entry ∈ shapesOf deck found slide, ∀ shown, shown? policy entry = some shown →
    Clear ⟨policy, tokensOf policy deck, slide.values⟩ shown.shape shown.kind
  ids : ∀ entry ∈ shapesOf deck found slide, (shown? policy entry).isSome = true →
    ∀ scope ∈ scopes deck found slide, ∀ id ∈ Cascade.givenIds scope,
      id.plainText = entry.1 → id.holdsNull = false

structure ClearDeck (policy : RenderPolicy) (deck : Deck) : Prop where
  full : ∀ v ∈ Style.pageValues deck, v.holdsNull = false
  seamless : ∀ parts ∈ Style.pageSeams deck, Seamless parts
  slides : ∀ slides ∈ deck.slides, ∀ raw ∈ slides,
    ∀ place ∈ located? policy.layoutLookup deck raw, ClearSlide policy deck place.1 place.2

/-! ## Plans -/

structure Resolved.Wordless (found : Resolved) : Prop where
  master : ∀ master ∈ found.master, master.Wordless
  layout : found.layout.Wordless

theorem wordless_findById {items : List Json} (wordless : ∀ item ∈ items, item.Wordless)
    {key : Option String} {item : Json} (found : findById items key = some item) :
    item.Wordless := by
  cases key with
  | none => cases found
  | some key => exact wordless item (List.mem_of_find?_eq_some found)

theorem wordless_layoutItem? {layouts : Option Collection}
    (wordless : ∀ c ∈ layouts, c.toJson.Wordless) {key : Option String} {item : Json}
    (found : layoutItem? layouts key = some item) : item.Wordless := by
  unfold layoutItem? at found
  split at found
  · rename_i entries
    obtain ⟨name, -, found⟩ := Option.bind_eq_some_iff.mp found
    exact (Json.wordless_obj.mp (wordless (.keyed entries) rfl)).get? found
  · rename_i items
    exact wordless_findById (Json.wordless_arr.mp (wordless (.listed items) rfl)) found
  · cases found

theorem wordless_resolved? {lookup : LayoutLookup} {slide : Slide} {deck : Deck}
    (wordless : deck.Wordless) {found : Resolved}
    (resolved : resolved? lookup slide deck = some found) : found.Wordless := by
  have read {item : Json} {layout : Layout} (known : item.Wordless)
      (done : (Layout.read item).toOption = some layout) : layout.Wordless :=
    Reader.wordless_entity (fun _ => Layout.wordless_ofRecord) known (eq_ok_of_toOption done)
  unfold resolved? at resolved
  cases lookup with
  | masterList =>
    obtain ⟨item, first, resolved⟩ := Option.bind_eq_some_iff.mp resolved
    obtain ⟨master, second, resolved⟩ := Option.bind_eq_some_iff.mp resolved
    obtain ⟨inner, third, resolved⟩ := Option.bind_eq_some_iff.mp resolved
    obtain ⟨layout, done, resolved⟩ := Option.bind_eq_some_iff.mp resolved
    cases resolved
    have own : master.Wordless :=
      Reader.wordless_entity (fun _ => Master.wordless_ofRecord)
        (wordless_findById wordless.masters first) (eq_ok_of_toOption second)
    refine ⟨?_, read (wordless_findById own.layouts third) done⟩
    rintro _ ⟨⟩
    exact own
  | map =>
    obtain ⟨item, first, resolved⟩ := Option.bind_eq_some_iff.mp resolved
    obtain ⟨layout, done, resolved⟩ := Option.bind_eq_some_iff.mp resolved
    cases resolved
    exact ⟨nofun, read (wordless_layoutItem? wordless.layouts first) done⟩

/-- An id without the word, or one that a shape in a list has given itself with a null in it. -/
def Named (scopes : List Json) (id : String) : Prop :=
  Silent id.toList ∨
    ∃ scope ∈ scopes, ∃ own ∈ Cascade.givenIds scope, own.plainText = id ∧ own.holdsNull = true

structure Plan.Wordless (scopes : List Json) (plan : Plan) : Prop where
  id : Silent plan.id.toList
  values : plan.values.Wordless
  shapes : Cascade.Wordless (Named scopes) plan.shapes
  background : ∀ d ∈ plan.background, d.Silent

section Plans

variable {policy : RenderPolicy} {deck : Deck} (wordless : deck.Wordless) {slide : Slide}
  (own : slide.Wordless) {found : Resolved} (around : found.Wordless)

include wordless own around

theorem wordless_scopes : ∀ scope ∈ scopes deck found slide, scope.Wordless := by
  have scope {shapes : Option Collection} (given : ∀ c ∈ shapes, c.toJson.Wordless) :
      (scopeOf shapes).Wordless := by
    cases shapes with
    | none => exact nofun
    | some c => exact given c rfl
  have master : ∀ c ∈ found.master.bind (·.shapes), c.toJson.Wordless := by
    intro c given
    obtain ⟨master, present, given⟩ := Option.bind_eq_some_iff.mp given
    exact (around.master master present).shapes c given
  simp only [scopes, List.forall_mem_cons]
  exact ⟨scope wordless.shapes, scope master, scope around.layout.shapes, scope own.shapes, nofun⟩

theorem wordless_backgroundOf : (backgroundOf deck found slide).Wordless := by
  have layer {bg : Option (Record Json)} (given : ∀ fields ∈ bg, fields.Wordless) :
      (Drawing.layerOf bg).Wordless := by
    cases bg with
    | none => exact nofun
    | some fields => exact Json.wordless_obj.mpr (given fields rfl)
  unfold backgroundOf
  refine Record.Wordless.erase (Cascade.wordless_overlayFields ?_) "inherit"
  simp only [List.forall_mem_append, List.forall_mem_cons]
  refine ⟨⟨layer wordless.bg, ?_⟩, layer around.layout.bg, layer own.bg, List.forall_mem_nil _⟩
  have masters := around.master
  generalize found.master = some_master at masters ⊢
  cases some_master with
  | none => exact List.forall_mem_nil _
  | some master =>
    dsimp only
    split
    · exact List.forall_mem_singleton.mpr (layer (masters master rfl).bg)
    · exact List.forall_mem_nil _

theorem Plan.wordless_ofSlide :
    (Plan.ofSlide deck slide found).Wordless (scopes deck found slide) := by
  have scopes_wordless := wordless_scopes wordless own around
  have merged : Cascade.Wordless (Named (scopes deck found slide))
      (Cascade.mergeShapes (scopes deck found slide)) := by
    refine Cascade.wordless_mergeShapes (fun _ => Or.inl) scopes_wordless ?_
    intro scope present id given
    cases full : id.holdsNull with
    | true => exact Or.inr ⟨scope, present, id, given, rfl, full⟩
    | false =>
      exact Or.inl (Json.silent_plainText
        (Cascade.wordless_givenIds (scopes_wordless scope present) id given) full)
  constructor
  case id => exact getD_of_forall own.id (by decide)
  case values => exact own.values
  case shapes => exact Cascade.wordless_applyOverrides merged own.overrides
  case background =>
    have given := wordless_backgroundOf wordless own around
    show ∀ d ∈ painted (backgroundOf deck found slide), d.Silent
    unfold painted
    split
    · rename_i background read
      obtain ⟨-, rfl⟩ := readEntity_ok read
      exact Style.silent_background given.withoutNulls
    · exact nofun

end Plans

theorem guarded_backgroundLayer {declarations : Declarations}
    (silent : ∀ d ∈ declarations, d.Silent) {shapes : Shapes} {layer : List Markup}
    (done : backgroundLayer declarations shapes = .ok layer) : ∀ m ∈ layer, Guarded m.chars := by
  unfold backgroundLayer at done
  split at done
  · cases done
    exact nofun
  · obtain ⟨z, -, same⟩ := bind_eq_ok.mp done
    cases same
    have styles : ∀ d ∈ declarations ++ [⟨"z-index", toString z⟩], d.Silent := by
      refine List.forall_mem_append.mpr ⟨silent, List.forall_mem_singleton.mpr ?_⟩
      exact .of_value (by decide) (silent_of_not_mem (Decimal.not_mem_whole (by decide) z))
    exact List.forall_mem_singleton.mpr (Markup.guarded_division (by decide)
      (List.forall_mem_singleton.mpr (Declarations.silent_text styles)) silent_nil)

theorem guarded_draw {policy : RenderPolicy} {tokens : Tokens} (themed : tokens.Wordless)
    {scopes : List Json} {plan : Plan} (wordless : plan.Wordless scopes)
    (clear : ∀ entry ∈ plan.shapes, ∀ shown, shown? policy entry = some shown →
      Silent entry.1.toList ∧ Clear ⟨policy, tokens, plan.values⟩ shown.shape shown.kind)
    {m : Markup} (done : plan.draw policy tokens = .ok m) : Guarded m.chars := by
  obtain ⟨ordered, sorted, done⟩ := bind_eq_ok.mp done
  obtain ⟨drawn, shapes, done⟩ := bind_eq_ok.mp done
  have each : ∀ m ∈ drawn, Guarded m.chars := by
    rw [outcome_drawShapes] at shapes
    obtain ⟨found, walk, kept⟩ := bind_eq_ok.mp shapes
    cases kept
    refine forall_of_walk walk fun entry member m drawn => ?_
    -- Sorting moves shapes about, and what is known of them does not depend on where they are.
    have present := (Cascade.sortByZ_perm sorted).mem_iff.mp member
    exact guarded_shape? themed wordless.values (wordless.shapes entry present).2
      (clear entry present) drawn
  split at done
  · obtain ⟨layer, below, done⟩ := bind_eq_ok.mp done
    cases done
    refine Markup.guarded_division (by decide) (List.forall_mem_singleton.mpr wordless.id)
      (Markup.guarded_children (List.forall_mem_append.mpr ⟨?_, each⟩)).1
    exact guarded_backgroundLayer wordless.background below
  · cases done
    refine Markup.guarded_division (by decide) ?_ (Markup.guarded_children each).1
    simp only [List.forall_mem_cons]
    exact ⟨wordless.id, Declarations.silent_text wordless.background, nofun⟩

/-! ## Decks -/

theorem guarded_fragment {policy : RenderPolicy} (plain : Silent policy.deckClass.text.toList)
    {deck : Deck} (wordless : deck.Wordless) (clear : ClearDeck policy deck) {slides : List Markup}
    (drawn : ∀ slide ∈ slides, Guarded slide.chars) :
    Guarded (fragment policy deck slides).chars := by
  have sheet := Style.silent_sheet policy.deckClass plain wordless clear.full clear.seamless
  have id : Silent (deck.id.getD "").toList := getD_of_forall wordless.id (by decide)
  refine Markup.guarded_division plain (List.forall_mem_singleton.mpr id)
    (Markup.guarded_children ?_).1
  simp only [List.forall_mem_append, List.forall_mem_cons]
  exact ⟨⟨by decide, Markup.guarded_style sheet, by decide, drawn⟩, by decide, nofun⟩

theorem guarded_plans {policy : RenderPolicy} {deck : Deck} (wordless : deck.Wordless)
    (clear : ClearDeck policy deck) {plans : List Plan}
    (listed : plans? policy.layoutLookup deck = some plans) {drawn : List Markup}
    (done : plans.mapM (Plan.draw policy (tokensOf policy deck)) = .ok drawn) :
    ∀ slide ∈ drawn, Guarded slide.chars := by
  have tokens : (tokensOf policy deck).Wordless := ⟨wordless.palette, wordless.fonts⟩
  intro slide member
  obtain ⟨plan, present, draws⟩ := mem_of_mapM done member
  obtain ⟨slides, given, rfl⟩ := Option.map_eq_some_iff.mp listed
  obtain ⟨raw, inside, plan_found⟩ := List.mem_filterMap.mp present
  obtain ⟨⟨own, found⟩, located, rfl⟩ := Option.map_eq_some_iff.mp plan_found
  have clear_slide := clear.slides slides given raw inside (own, found) located
  rw [located?_eq] at located
  obtain ⟨_, read, located⟩ := Option.bind_eq_some_iff.mp located
  obtain ⟨_, resolved, same⟩ := Option.bind_eq_some_iff.mp located
  cases same
  have own_wordless : own.Wordless :=
    Reader.wordless_entity (fun _ => Slide.wordless_ofRecord)
      (wordless.slides slides given raw inside) (eq_ok_of_toOption read)
  have planned := Plan.wordless_ofSlide wordless own_wordless (wordless_resolved? wordless resolved)
  refine guarded_draw tokens planned (fun entry present shown known => ?_) draws
  refine ⟨?_, clear_slide.shapes entry present shown known⟩
  -- The id of a shape that is seen is silent, or there is a null in it, which is ruled out.
  rcases (planned.shapes entry present).1 with silent | ⟨scope, within, id, given, same, null⟩
  · exact silent
  · have seen : (shown? policy entry).isSome = true := by rw [known]; rfl
    rw [clear_slide.ids entry present seen scope within id given same] at null
    cases null

/-- In a deck in whose texts the word for null does not stand it is not rendered either, wherever
there are nulls, unless it comes about where texts meet, or a null stands inside a value that is
written as a whole. -/
theorem render_silent (policy : RenderPolicy) (document : Json) (wordless : document.Wordless)
    (plain : Silent policy.deckClass.text.toList)
    (clear : ∀ deck, Deck.reading? document = some deck → ClearDeck policy deck) (html : String)
    (rendered : (render policy document).outcome = .ok html) : Silent html.toList := by
  rw [outcome_render, outcome_document?, Deck.outcome_readLeniently_eq] at rendered
  obtain ⟨markup, done, same⟩ := bind_eq_ok.mp rendered
  obtain ⟨read, found, done⟩ := bind_eq_ok.mp done
  cases same
  cases found
  cases reading : Deck.reading? document with
  | none =>
    rw [reading] at done
    cases done
    exact silent_nil
  | some deck =>
    obtain ⟨fields, rfl, -, rfl⟩ := Deck.reading?_eq_some reading
    have deck_wordless := Deck.wordless_ofRecord (Json.wordless_obj.mp wordless).withoutNulls
    have own := clear _ reading
    rw [reading] at done
    dsimp only at done
    rw [outcome_deck?_eq] at done
    split at done
    · cases done
      exact silent_nil
    · rename_i plans planned
      -- A deck of a version that is not supported is not drawn.
      split at done
      · cases done
        exact silent_nil
      · obtain ⟨drawn, walked, same⟩ := bind_eq_ok.mp done
        cases same
        have slides := guarded_plans deck_wordless own planned walked
        rw [fragmentText, Markup.render, String.toList_ofList]
        exact (guarded_fragment plain deck_wordless own slides).1

/-! A deck with nulls in the place of records, of fields, of dashes and of the value of a
placeholder, and an entry of the theme next to another one that is null. -/

def blankTitle : Record Json :=
  [("type", .str "text"), ("text", .str "{who}: {what}"), ("text_color", .str "brand"),
    ("x", .null)]

def blankFrame : Record Json :=
  [("type", .str "rectangle"), ("stroke_dasharray", .arr [.int 4, .null])]

def blankLayout : Record Json :=
  [("id", .null), ("shapes", .obj [("title", .obj blankTitle), ("frame", .obj blankFrame),
    ("none", .null)])]

def blankSlide : Record Json :=
  [("layout", .str "plain"), ("bg", .null), ("overrides", .arr [.null, .obj [("shape", .null)]]),
    ("meta", .obj [("who", .str "Ada"), ("what", .null)])]

def blankDeck : Record Json :=
  [("id", .null), ("colors", .obj [("brand", .str "red"), ("other", .null), ("bg", .null)]),
    ("layouts", .obj [("plain", .obj blankLayout)]), ("slides", .arr [.null, .obj blankSlide])]

def blankShapes : Shapes :=
  [("title", blankTitle), ("frame", blankFrame)]

def blankDrawn : Deck :=
  Deck.ofRecord (withoutNulls blankDeck)

def blankPlace : Slide × Resolved :=
  (Slide.ofRecord (withoutNulls blankSlide), ⟨none, Layout.ofRecord (withoutNulls blankLayout)⟩)

theorem clear_blankTitle : Clear ⟨.keyed, tokensOf .keyed blankDrawn, blankPlace.1.values⟩
    (Shape.ofRecord (withoutNulls blankTitle)) .text := by
  have pieces : Interpolation.pieces [("who", .str "Ada"), ("what", .null)]
      "{who}: {what}".toList = [.run [], .value (.str "Ada"), .run [':', ' '],
        .run "{what}".toList, .run []] := by
    cbv
  constructor
  · show ∀ v ∈ [.str "red"] ++ Interpolation.putInto [("who", .str "Ada"), ("what", .null)]
      "{who}: {what}", v.holdsNull = false
    rw [Interpolation.putInto, pieces]
    decide
  · show ∀ parts ∈ [["0".toList, "%".toList], ["0".toList, "%".toList],
      ["100".toList, "%".toList], ["100".toList, "%".toList]] ++
      [Interpolation.seam [("who", .str "Ada"), ("what", .null)] "{who}: {what}"], Seamless parts
    rw [Interpolation.seam, pieces]
    decide

theorem clear_blankDeck : ClearDeck .keyed blankDrawn := by
  constructor
  case full => decide
  case seamless => decide
  case slides =>
    rintro _ ⟨⟩ raw member place located
    rcases List.mem_cons.mp member with rfl | member
    · cases located
    cases List.mem_singleton.mp member
    have found : located? .map blankDrawn (.obj blankSlide) = some blankPlace := rfl
    cases found.symm.trans located
    have merged : shapesOf blankDrawn blankPlace.2 blankPlace.1 = blankShapes := rfl
    have seen : shown? .keyed ("title", blankTitle) =
        some ⟨"title", Shape.ofRecord (withoutNulls blankTitle), .text⟩ := rfl
    have passed : shown? .keyed ("frame", blankFrame) = none := rfl
    constructor
    · intro entry member shown known
      rw [merged, blankShapes, List.mem_cons, List.mem_singleton] at member
      rcases member with rfl | rfl
      · cases seen.symm.trans known
        exact clear_blankTitle
      · cases passed.symm.trans known
    · have keyed : ∀ scope ∈ scopes blankDrawn blankPlace.2 blankPlace.1,
          Cascade.givenIds scope = [] := by
        simp only [scopes, List.forall_mem_cons]
        exact ⟨rfl, rfl, rfl, rfl, nofun⟩
      intro entry _ _ scope within id given
      rw [keyed scope within] at given
      cases given

theorem render_silent_blank : ∃ html, (Json.obj blankDeck).Wordless ∧
    (render .keyed (.obj blankDeck)).outcome = .ok html ∧ Silent html.toList := by
  have wordless : (Json.obj blankDeck).Wordless := by decide
  have level : ∀ entry ∈ blankShapes, Cascade.zValue entry.2 = .ok 0.0 := by
    intro entry member
    rw [blankShapes, List.mem_cons, List.mem_singleton] at member
    rcases member with rfl | rfl <;> rfl
  obtain ⟨m, done⟩ : ∃ m, (Plan.ofSlide blankDrawn blankPlace.1 blankPlace.2).draw .keyed
      (tokensOf .keyed blankDrawn) = .ok m :=
    ⟨_, bind_eq_ok.mpr ⟨blankShapes, Cascade.sortByZ_level level, rfl⟩⟩
  have planned : plans? .map blankDrawn =
      some [Plan.ofSlide blankDrawn blankPlace.1 blankPlace.2] := rfl
  have rendered : (render .keyed (.obj blankDeck)).outcome =
      .ok (fragment .keyed blankDrawn [m]).render :=
    render_of_plans rfl rfl planned (mapM_eq_ok_iff.mpr (.cons done .nil))
  refine ⟨_, wordless, rendered, ?_⟩
  refine render_silent .keyed (.obj blankDeck) wordless (by decide) ?_ _ rendered
  rintro deck ⟨⟩
  exact clear_blankDeck

/-! ## Decks in which the word comes about

In one a text and the value of its placeholder make it up, without any null; in the other a shape
names a color that is null. -/

theorem infix_of_alone (document : Json) (plan : Plan) (entry : String × Record Json) {deck : Deck}
    {block : Markup} (reading : Deck.reading? document = some deck)
    (accepted : supported deck.version = true) (planned : plans? .map deck = some [plan])
    (alone : plan.shapes = [entry]) (plain : plan.background = [])
    (level : Cascade.zValue entry.2 = .ok 0.0)
    (drawn : (drawShapes ⟨.keyed, tokensOf .keyed deck, plan.values⟩ [entry]).outcome =
      .ok [block]) :
    ∃ html, (render .keyed document).outcome = .ok html ∧ block.chars <:+: html.toList := by
  let slide := Markup.division "slide" [⟨.slideId, plan.id⟩, Declarations.attribute []] [block]
  have done : plan.draw .keyed (tokensOf .keyed deck) = .ok slide := by
    have sorted : Cascade.sortByZ plan.shapes = .ok [entry] := by
      rw [alone]
      exact Cascade.sortByZ_level (List.forall_mem_singleton.mpr level)
    refine bind_eq_ok.mpr ⟨_, sorted, bind_eq_ok.mpr ⟨_, drawn, ?_⟩⟩
    rw [plain]
    rfl
  have rendered : (render .keyed document).outcome = .ok (fragment .keyed deck [slide]).render :=
    render_of_plans reading (by rw [accepted]; rfl) planned (mapM_eq_ok_iff.mpr (.cons done .nil))
  refine ⟨_, rendered, ?_⟩
  rw [Markup.render, String.toList_ofList]
  have inside : block.chars <:+: slide.chars := Markup.infix_element List.mem_cons_self
  exact inside.trans (Markup.infix_element (by simp))

def joinedTitle : Record Json :=
  [("type", .str "text"), ("text", .str "No{x}")]

def joinedLayout : Record Json :=
  [("shapes", .obj [("title", .obj joinedTitle)])]

def joinedSlide : Record Json :=
  [("layout", .str "plain"), ("meta", .obj [("x", .str "ne")])]

def joinedDeck : Record Json :=
  [("layouts", .obj [("plain", .obj joinedLayout)]), ("slides", .arr [.obj joinedSlide])]

def joinedPlan : Plan :=
  Plan.ofSlide (Deck.ofRecord joinedDeck) (Slide.ofRecord joinedSlide)
    ⟨none, Layout.ofRecord joinedLayout⟩

def paleTitle : Record Json :=
  [("type", .str "text"), ("text", .str "Hi"), ("text_color", .str "brand")]

def paleLayout : Record Json :=
  [("shapes", .obj [("title", .obj paleTitle)])]

def paleSlide : Record Json :=
  [("layout", .str "plain")]

def paleDeck : Record Json :=
  [("colors", .obj [("brand", .null)]), ("layouts", .obj [("plain", .obj paleLayout)]),
    ("slides", .arr [.obj paleSlide])]

def palePlan : Plan :=
  Plan.ofSlide (Deck.ofRecord paleDeck) (Slide.ofRecord paleSlide)
    ⟨none, Layout.ofRecord paleLayout⟩

theorem render_not_silent : Silent RenderPolicy.keyed.deckClass.text.toList ∧
    ∀ deck ∈ [joinedDeck, paleDeck], (Json.obj deck).Wordless ∧
      ∃ html, (render .keyed (.obj deck)).outcome = .ok html ∧ nullWord <:+: html.toList := by
  rw [List.forall_mem_cons, List.forall_mem_singleton]
  refine ⟨by decide, ⟨by decide, ?_⟩, by decide, ?_⟩
  · obtain ⟨html, rendered, inside⟩ := infix_of_alone (.obj joinedDeck) joinedPlan
      ("title", joinedTitle) rfl rfl rfl rfl rfl rfl rfl
    refine ⟨html, rendered, List.IsInfix.trans ?_ inside⟩
    decide +kernel
  · obtain ⟨html, rendered, inside⟩ := infix_of_alone (.obj paleDeck) palePlan
      ("title", paleTitle) rfl rfl rfl rfl rfl rfl rfl
    refine ⟨html, rendered, List.IsInfix.trans ?_ inside⟩
    decide +kernel

end DeckPress.Drawing
