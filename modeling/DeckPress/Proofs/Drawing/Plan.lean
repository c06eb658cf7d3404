import DeckPress.Proofs.Drawing.Outcome
import DeckPress.Proofs.Entity.Matching

/-!
What there is to draw of a slide: its id, the values of its placeholders, its shapes and its
background. A deck is drawn from the plans of its slides, so decks that come to the same plans are
drawn alike, however they keep their layouts and shapes.
-/

namespace DeckPress.Drawing

open Record

/-! ## Looking up -/

/-- The text of the id of a record in a list; none if there is none to look it up by. -/
def idText? (item : Json) : Option String :=
  (item.fields?.bind fun fields => Json.given? fields "id").map Json.plainText

theorem findById_eq (items : List Json) (key : String) :
    findById items (some key) = items.find? fun item => idText? item == some key := by
  refine congrArg (items.find? ·) (funext fun item => ?_)
  unfold idText?
  cases item.fields?.bind fun fields => Json.given? fields "id" <;> rfl

theorem findById_of_first {before after : List Json} {item : Json} {id : String}
    (named : idText? item = some id) (first : ∀ other ∈ before, idText? other ≠ some id) :
    findById (before ++ item :: after) (some id) = some item := by
  have skipped : before.find? (fun other => idText? other == some id) = none := by
    rw [List.find?_eq_none]
    intro other member same
    exact first other member (beq_iff_eq.mp same)
  rw [findById_eq, List.find?_append, skipped, Option.none_or]
  exact List.find?_cons_of_pos (beq_iff_eq.mpr named)

/-- Changes that leave ids alone can be made before looking up or after it. -/
theorem findById_map {change : Json → Json} (same : ∀ item, idText? (change item) = idText? item)
    (items : List Json) (key : Option String) :
    findById (items.map change) key = (findById items key).map change := by
  cases key with
  | none => rfl
  | some key =>
    rw [findById_eq, findById_eq, List.find?_map]
    simp only [Function.comp_def, same]

theorem related_findById {R : Json → Json → Prop} (ids : ∀ x y, R x y → idText? y = idText? x)
    {xs ys : List Json} (related : List.Forall₂ R xs ys) (key : Option String) :
    Option.Rel R (findById xs key) (findById ys key) := by
  cases key with
  | none => exact .none
  | some key =>
    rw [findById_eq, findById_eq]
    induction related with
    | nil => exact .none
    | @cons x y _ _ first _ ih =>
      rw [List.find?_cons, List.find?_cons, ids x y first]
      cases idText? x == some key with
      | true => exact .some first
      | false => exact ih

theorem idText?_exchanged {P : Exchange} (own : ∀ v w, P "id" v w → v = w) {v w : Json}
    (exchanged : Exchanged P v w) : idText? w = idText? v := by
  cases exchanged with
  | other => rfl
  | @fields r s matching =>
    have ids : get? s "id" = get? r "id" := by
      rcases matching.get? "id" with ⟨left, right⟩ | ⟨v, w, left, right, exchanged⟩
      · rw [left, right]
      · rw [left, right, own v w exchanged]
    simp only [idText?, Json.fields?, Option.bind_some, Json.given?, ids]

/-- What a collection of layouts has under a key. -/
def layoutItem? (layouts : Option Collection) (key : Option String) : Option Json :=
  match layouts with
  | some (.keyed entries) => key.bind fun key => get? entries key
  | some (.listed items) => findById items key
  | none => none

/-- The layout of a slide, if it is found and can be read. -/
def resolved? (lookup : LayoutLookup) (slide : Slide) (deck : Deck) : Option Resolved :=
  match lookup with
  | .masterList =>
    (findById deck.masters slide.master).bind fun item =>
      (Master.read item).toOption.bind fun master =>
        (findById master.layouts slide.layout).bind fun item =>
          (Layout.read item).toOption.bind fun layout => some ⟨some master, layout⟩
  | .map =>
    (layoutItem? deck.layouts slide.layout).bind fun item =>
      (Layout.read item).toOption.bind fun layout => some ⟨none, layout⟩

/-- What is found in a collection, read as a layout without a master. -/
def bareLayout (found : Option Json) : Except Refusal (Option Resolved) :=
  match found with
  | some (.obj fields) => do return some ⟨none, ← Layout.read (.obj fields)⟩
  | _ => .ok none

theorem join_bareLayout (found : Option Json) : (bareLayout found).toOption.join =
    found.bind fun item => (Layout.read item).toOption.bind fun layout => some ⟨none, layout⟩ := by
  unfold bareLayout
  cases found with
  | none => rfl
  | some item =>
    cases item with
    | obj fields => cases read : Layout.read (.obj fields) <;> simp [read] <;> rfl
    | _ => rfl

theorem join_lookUp (lookup : LayoutLookup) (slide : Slide) (deck : Deck) :
    (lookUp lookup slide deck).toOption.join = resolved? lookup slide deck := by
  unfold lookUp resolved?
  cases lookup with
  | masterList =>
    dsimp only
    cases findById deck.masters slide.master with
    | none => rfl
    | some item =>
      rw [Option.bind_some]
      dsimp only
      cases Master.read item with
      | error refusal => rfl
      | ok master =>
        simp only [bind, Except.bind, pure, Except.pure, Except.toOption, Option.bind_some]
        cases findById master.layouts slide.layout with
        | none => rfl
        | some found =>
          dsimp only [Option.bind_some]
          cases Layout.read found <;> rfl
  | map => exact join_bareLayout (layoutItem? deck.layouts slide.layout)

/-! ## Plans -/

/-- A slide that can be read, with its layout; none if there is no layout for it. -/
def located? (lookup : LayoutLookup) (deck : Deck) (raw : Json) : Option (Slide × Resolved) :=
  match Slide.read raw with
  | .error _ => none
  | .ok slide =>
    match lookUp lookup slide deck with
    | .ok (some found) => some (slide, found)
    | _ => none

theorem located?_eq (lookup : LayoutLookup) (deck : Deck) (raw : Json) :
    located? lookup deck raw = (Slide.read raw).toOption.bind fun slide =>
      (resolved? lookup slide deck).bind fun found => some (slide, found) := by
  unfold located?
  cases Slide.read raw with
  | error refusal => rfl
  | ok slide =>
    simp only [← join_lookUp, Except.toOption, Option.bind_some]
    cases lookUp lookup slide deck with
    | error refusal => rfl
    | ok found => cases found <;> rfl

structure Plan where
  id : String
  values : Record Json
  shapes : Shapes
  background : Declarations

/-- The declarations of a background. One that cannot be read has none. -/
def painted (background : Record Json) : Declarations :=
  match Background.read (.obj background) with
  | .ok background => Style.background background
  | .error _ => []

namespace Plan

def ofSlide (deck : Deck) (slide : Slide) (found : Resolved) : Plan :=
  { id := slide.id.getD ""
    values := slide.values
    shapes := shapesOf deck found slide
    background := painted (backgroundOf deck found slide) }

def draw (policy : RenderPolicy) (tokens : Tokens) (plan : Plan) : Except NumberError Markup := do
  let ordered ← Cascade.sortByZ plan.shapes
  let drawn ← (drawShapes { policy, tokens, values := plan.values } ordered).outcome
  match policy.backgroundMode with
  | .layer => do
    let layer ← backgroundLayer plan.background ordered
    return Markup.division "slide" [⟨.slideId, plan.id⟩] (layer ++ drawn)
  | .inline => return Markup.division "slide" [⟨.slideId, plan.id⟩, plan.background.attribute] drawn

end Plan

/-- The plan of a slide, if it is drawn. -/
def plan? (lookup : LayoutLookup) (deck : Deck) (raw : Json) : Option Plan :=
  (located? lookup deck raw).map fun place => Plan.ofSlide deck place.1 place.2

theorem filterMap_plan? (lookup : LayoutLookup) (deck : Deck) (slides : List Json) :
    slides.filterMap (plan? lookup deck) =
      (slides.filterMap (located? lookup deck)).map fun place => Plan.ofSlide deck place.1 place.2 :=
  (List.map_filterMap ..).symm

/-- The plans of a deck; none if it has no slides. -/
def plans? (lookup : LayoutLookup) (deck : Deck) : Option (List Plan) :=
  deck.slides.map fun slides => slides.filterMap (plan? lookup deck)

theorem outcome_backgroundDeclarations_eq {ε : Type} (slide : Slide) (background : Record Json) :
    (backgroundDeclarations slide background : Trace ε Declarations).outcome =
      .ok (painted background) := by
  rw [outcome_backgroundDeclarations, painted]
  cases Background.read (.obj background) <;> rfl

theorem draw_ofSlide (policy : RenderPolicy) (tokens : Tokens) (deck : Deck) (slide : Slide)
    (found : Resolved) :
    (Plan.ofSlide deck slide found).draw policy tokens =
      (drawSlide policy tokens deck found slide).outcome := by
  rw [outcome_drawSlide, outcome_backgroundDeclarations_eq]
  rfl

/-- A slide is drawn where it is located, and otherwise passed over. -/
theorem outcome_slide?_eq (policy : RenderPolicy) (tokens : Tokens) (deck : Deck) (raw : Json) :
    (slide? policy tokens deck raw).outcome =
      match located? policy.layoutLookup deck raw with
      | none => .ok none
      | some place => do
        return some (← (drawSlide policy tokens deck place.2 place.1).outcome) := by
  rw [outcome_slide?, located?]
  cases Slide.read raw with
  | error refusal => rfl
  | ok slide =>
    dsimp only
    cases lookUp policy.layoutLookup slide deck with
    | error refusal => rfl
    | ok found => cases found <;> rfl

theorem outcome_slide?_of_plan {policy : RenderPolicy} {tokens : Tokens} {deck : Deck}
    {raw : Json} {plan : Plan} (planned : plan? policy.layoutLookup deck raw = some plan) :
    (slide? policy tokens deck raw).outcome = do return some (← plan.draw policy tokens) := by
  obtain ⟨place, located, rfl⟩ := Option.map_eq_some_iff.mp planned
  rw [draw_ofSlide, outcome_slide?_eq, located]

theorem outcome_slide?_unplanned {policy : RenderPolicy} {tokens : Tokens} {deck : Deck}
    {raw : Json} (unplanned : plan? policy.layoutLookup deck raw = none) :
    (slide? policy tokens deck raw).outcome = .ok none := by
  rw [outcome_slide?_eq, Option.map_eq_none_iff.mp unplanned]

theorem outcome_drawSlides_eq (policy : RenderPolicy) (deck : Deck) (slides : List Json) :
    (drawSlides policy deck slides).outcome =
      (slides.filterMap (plan? policy.layoutLookup deck)).mapM
        (Plan.draw policy (tokensOf policy deck)) := by
  rw [outcome_drawSlides]
  exact mapM_filterMap (fun _ => outcome_slide?_unplanned) (fun _ _ => outcome_slide?_of_plan)
    slides

theorem outcome_deck?_eq (policy : RenderPolicy) (deck : Deck) :
    (deck? policy deck).outcome =
      match plans? policy.layoutLookup deck with
      | none => .ok none
      | some plans =>
        if policy.checkVersion && !supported deck.version then .ok none
        else do
          let drawn ← plans.mapM (Plan.draw policy (tokensOf policy deck))
          return some (fragment policy deck drawn) := by
  rw [outcome_deck?, plans?]
  cases deck.slides with
  | none => rfl
  | some slides => simp only [Option.map_some, outcome_drawSlides_eq]

theorem render_of_plans {policy : RenderPolicy} {document : Json} {deck : Deck}
    (reading : Deck.reading? document = some deck)
    (accepted : (policy.checkVersion && !supported deck.version) = false) {plans : List Plan}
    (planned : plans? policy.layoutLookup deck = some plans) {slides : List Markup}
    (drawn : plans.mapM (Plan.draw policy (tokensOf policy deck)) = .ok slides) :
    (render policy document).outcome = .ok (fragment policy deck slides).render := by
  have done : (deck? policy deck).outcome = .ok (some (fragment policy deck slides)) := by
    rw [outcome_deck?_eq, planned]
    dsimp only
    rw [accepted, drawn]
    rfl
  rw [outcome_render, outcome_document?, Deck.outcome_readLeniently_eq, reading]
  exact bind_eq_ok.mpr ⟨_, done, rfl⟩

/-! ## Decks that are drawn alike -/

theorem fragment_congr {policy : RenderPolicy} {deck other : Deck} (id : other.id = deck.id)
    (size : other.slideSize = deck.slideSize) (colors : other.palette = deck.palette)
    (fonts : other.fontTable = deck.fontTable) (slides : List Markup) :
    fragment policy other slides = fragment policy deck slides := by
  have sheet : Style.sheet policy.deckClass other = Style.sheet policy.deckClass deck := by
    simp only [Style.sheet, Style.rules, size, colors, fonts]
  rw [fragment, fragment, id, sheet]

/-- Two decks with the same heading, the same tables and the same plans are drawn alike. -/
theorem outcome_deck?_congr {policy : RenderPolicy} {lookup : LayoutLookup} {deck other : Deck}
    (id : other.id = deck.id) (version : other.version = deck.version)
    (size : other.slideSize = deck.slideSize) (colors : other.palette = deck.palette)
    (fonts : other.fontTable = deck.fontTable)
    (plans : plans? lookup other = plans? policy.layoutLookup deck) :
    (deck? { policy with layoutLookup := lookup } other).outcome = (deck? policy deck).outcome := by
  have tokens : tokensOf { policy with layoutLookup := lookup } other = tokensOf policy deck := by
    simp only [tokensOf, colors, fonts]
  have whole (slides : List Markup) :
      fragment { policy with layoutLookup := lookup } other slides = fragment policy deck slides := by
    have same : fragment policy other slides = fragment policy deck slides :=
      fragment_congr id size colors fonts slides
    exact same
  rw [outcome_deck?_eq, outcome_deck?_eq, version, tokens]
  simp only [plans, whole]
  rfl

end DeckPress.Drawing
