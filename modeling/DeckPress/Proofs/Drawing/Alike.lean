import DeckPress.Proofs.Cascade.Order
import DeckPress.Proofs.Drawing.Plan
import DeckPress.Proofs.Interpolation

/-!
What drawing does not look at. A shape asks of the theme what its colours and fonts stand for, of
its slide what stands for placeholders, and of its record no more than is read of it. Contexts,
plans and decks that give the same answers are drawn alike.
-/

namespace DeckPress

open Record

namespace Drawing

/-! ## Shapes -/

/-- Tables in which colours and fonts stand for the same. -/
structure AlikeTokens (t u : Tokens) : Prop where
  color : ∀ value, t.color value = u.color value
  font : ∀ value, t.font value = u.font value

structure AlikeContexts (c d : Context) : Prop where
  policy : c.policy = d.policy
  tokens : AlikeTokens c.tokens d.tokens
  text : ∀ text, Interpolation.interpolate text c.values = Interpolation.interpolate text d.values

theorem alikeTokens_of_tables {t u : Tokens} (enabled : t.enabled = u.enabled)
    (colors : ∀ name, get? t.colors name = get? u.colors name)
    (fonts : ∀ name, get? t.fonts name = get? u.fonts name) : AlikeTokens t u := by
  have resolved {table other : Record Json} (same : ∀ name, get? table name = get? other name)
      (value : Json) : resolveToken value table = resolveToken value other := by
    unfold resolveToken
    split <;> simp only [same]
  constructor
  · intro value
    rw [Tokens.color, Tokens.color, enabled, resolved colors]
  · intro value
    rw [Tokens.font, Tokens.font, enabled, resolved fonts]

theorem alikeTokens_of_disabled {t u : Tokens} (left : t.enabled = false)
    (right : u.enabled = false) : AlikeTokens t u := by
  constructor
  · intro value
    simp [Tokens.color, left, right]
  · intro value
    simp [Tokens.font, left, right]

theorem svg?_alike {t u : Tokens} (alike : AlikeTokens t u) (ratio : Float) (s : Shape)
    (family : String) : svg? t ratio s family = svg? u ratio s family := by
  have stroke : strokeColor t s = strokeColor u s := alike.color _
  have drawn : drawsStroke t s = drawsStroke u s := by
    rw [drawsStroke, drawsStroke, stroke]
  have attributes : strokeAttributes t s = strokeAttributes u s := by
    rw [strokeAttributes, strokeAttributes, drawn, stroke]
  simp only [svg?, attributes, alike.color]

theorem outcome_shape?_alike {c d : Context} (alike : AlikeContexts c d) (id : String)
    {record other : Json} (read : Shape.read record = Shape.read other) :
    (shape? c id record).outcome = (shape? d id other).outcome := by
  have font (s : Shape) : Style.font c.tokens s = Style.font d.tokens s := by
    simp only [Style.font, alike.tokens.color, alike.tokens.font]
  have block (s : Shape) : text c id s = text d id s := by
    simp only [text, alike.text, font]
  have item (s : Shape) (value : Json) : itemText c s value = itemText d s value := by
    simp only [itemText, alike.text]
  have items (s : Shape) : list c id s = list d id s := by
    simp only [list, font, item]
  have above (s : Shape) : overlay c s = overlay d s := by
    simp only [overlay, alike.text, font]
  have vector (s : Shape) (family : String) : vector? c id s family = vector? d id s family := by
    simp only [vector?, alike.policy, svg?_alike alike.tokens, above]
  simp only [outcome_shape?, read, alike.policy, block, items, vector]

/-! ## Slides -/

def AlikeRecords (r s : Record Json) : Prop :=
  get? r "z" = get? s "z" ∧ Shape.read (.obj r) = Shape.read (.obj s)

structure AlikePlans (p q : Plan) : Prop where
  id : p.id = q.id
  values : ∀ name, Json.given? p.values name = Json.given? q.values name
  shapes : Cascade.Paired AlikeRecords p.shapes q.shapes
  background : p.background = q.background

theorem AlikePlans.refl (p : Plan) : AlikePlans p p :=
  ⟨rfl, fun _ => rfl, List.forall₂_same.mpr fun _ _ => ⟨rfl, rfl, rfl⟩, rfl⟩

theorem plans_refl (plans : Option (List Plan)) :
    Option.Rel (List.Forall₂ AlikePlans) plans plans := by
  cases plans with
  | none => exact .none
  | some each => exact .some (List.forall₂_same.mpr fun plan _ => AlikePlans.refl plan)

theorem plans?_congr {lookup : LayoutLookup} {deck other : Deck}
    (slides : other.slides = deck.slides) (shapes : other.shapes = deck.shapes)
    (bg : other.bg = deck.bg)
    (found : ∀ slide, resolved? lookup slide other = resolved? lookup slide deck) :
    plans? lookup other = plans? lookup deck := by
  have ofSlide (slide : Slide) (place : Resolved) :
      Plan.ofSlide other slide place = Plan.ofSlide deck slide place := by
    simp only [Plan.ofSlide, shapesOf, scopes, backgroundOf, shapes, bg]
  have plan (raw : Json) : plan? lookup other raw = plan? lookup deck raw := by
    simp only [plan?, located?_eq, found, ofSlide]
  simp only [plans?, slides, funext plan]

theorem outcome_drawShapes_alike {c d : Context} (alike : AlikeContexts c d) {xs ys : Shapes}
    (paired : Cascade.Paired AlikeRecords xs ys) :
    (drawShapes c xs).outcome = (drawShapes d ys).outcome := by
  have walk : InStep (List.Forall₂ Eq)
      (xs.mapM fun entry => (shape? c entry.1 (.obj entry.2)).outcome)
      (ys.mapM fun entry => (shape? d entry.1 (.obj entry.2)).outcome) := by
    refine InStep.mapM (fun a b here => ?_) paired
    obtain ⟨id, -, read⟩ := here
    rw [id]
    exact .of_eq (outcome_shape?_alike alike b.1 read)
  rw [outcome_drawShapes, outcome_drawShapes]
  refine InStep.eq (walk.bind fun drawn others same => ?_)
  rw [List.forall₂_eq_eq_eq] at same
  rw [same]
  exact .of_eq rfl

theorem draw_alike (policy : RenderPolicy) {t u : Tokens} (tokens : AlikeTokens t u) {p q : Plan}
    (alike : AlikePlans p q) : p.draw policy t = q.draw policy u := by
  have heights : ∀ r s, AlikeRecords r s → get? r "z" = get? s "z" := fun _ _ same => same.1
  have contexts : AlikeContexts { policy, tokens := t, values := p.values }
      { policy, tokens := u, values := q.values } :=
    ⟨rfl, tokens, Interpolation.interpolate_congr alike.values⟩
  refine InStep.eq ((alike.shapes.sortByZ heights).bind fun xs ys sorted => .of_eq ?_)
  have layer : backgroundLayer p.background xs = backgroundLayer q.background ys := by
    rw [backgroundLayer, backgroundLayer, alike.background, sorted.backgroundZ heights]
  rw [outcome_drawShapes_alike contexts sorted, layer, alike.id, alike.background]

/-! ## Decks -/

/-- Two decks that answer what drawing under a policy asks in the same way. -/
structure AlikeDecks (policy : RenderPolicy) (deck other : Deck) : Prop where
  id : other.id = deck.id
  version : policy.checkVersion = true → other.version = deck.version
  size : other.slideSize = deck.slideSize
  color : get? other.palette "bg" = get? deck.palette "bg"
  font : get? other.fontTable "body" = get? deck.fontTable "body"
  tokens : AlikeTokens (tokensOf policy deck) (tokensOf policy other)
  plans : Option.Rel (List.Forall₂ AlikePlans) (plans? policy.layoutLookup deck)
    (plans? policy.layoutLookup other)

theorem fragment_alike {policy : RenderPolicy} {deck other : Deck}
    (alike : AlikeDecks policy deck other) (slides : List Markup) :
    fragment policy other slides = fragment policy deck slides := by
  have sheet : Style.sheet policy.deckClass other = Style.sheet policy.deckClass deck := by
    simp only [Style.sheet, Style.rules, Style.entryOr, alike.size, alike.color, alike.font]
  rw [fragment, fragment, alike.id, sheet]

theorem outcome_deck?_alike {policy : RenderPolicy} {deck other : Deck}
    (alike : AlikeDecks policy deck other) :
    (deck? policy other).outcome = (deck? policy deck).outcome := by
  have refused : (policy.checkVersion && !supported other.version) =
      (policy.checkVersion && !supported deck.version) := by
    cases checked : policy.checkVersion with
    | false => rfl
    | true => rw [alike.version checked]
  have plans := alike.plans
  rw [outcome_deck?_eq, outcome_deck?_eq, refused]
  generalize plans? policy.layoutLookup deck = before at plans ⊢
  generalize plans? policy.layoutLookup other = after at plans ⊢
  cases plans with
  | none => rfl
  | some each =>
    have drawn := InStep.mapM (S := Eq) (ε := NumberError)
      (fun p q same => .of_eq (draw_alike policy alike.tokens same)) each
    rw [List.forall₂_eq_eq_eq] at drawn
    simp only [drawn.eq, fragment_alike alike]

theorem outcome_render_alike {policy : RenderPolicy} {document other : Json}
    (alike : Option.Rel (AlikeDecks policy) (Deck.reading? document) (Deck.reading? other)) :
    (render policy other).outcome = (render policy document).outcome := by
  rw [outcome_render, outcome_render, outcome_document?, outcome_document?,
    Deck.outcome_readLeniently_eq, Deck.outcome_readLeniently_eq]
  generalize Deck.reading? document = before at alike ⊢
  generalize Deck.reading? other = after at alike ⊢
  cases alike with
  | none => rfl
  | some decks =>
    have same := outcome_deck?_alike decks
    change (do return fragmentText (← (deck? policy _).outcome)) =
      (do return fragmentText (← (deck? policy _).outcome))
    rw [same]

end Drawing

end DeckPress
