import DeckPress.Proofs.Cascade.Order
import DeckPress.Proofs.Cascade.Patching
import DeckPress.Proofs.Drawing.Failure
import DeckPress.Proofs.Drawing.Isolation
import DeckPress.Proofs.Entity.Change

/-!
What fails alone. A slide that cannot be read or has no layout leaves the other slides as they are
drawn without it; and a shape of which nothing is drawn leaves the other shapes as they are, their
order and the background of the slide included. Only the height at which a background layer is
stacked may change with the shape, since it is below all of them.
-/

namespace DeckPress.Drawing

open Record Cascade

/-! ## Looking up -/

theorem get?_each (change : Json → Json) (fields : Record Json) (key : String) :
    get? (fields.map fun field => (field.1, change field.2)) key =
      (get? fields key).map change := by
  induction fields with
  | nil => rfl
  | cons field rest ih =>
    by_cases here : field.1 = key
    · simp [get?, here]
    · simpa [get?, here] using ih

theorem idText?_ownShape (id : String) (item : Json) :
    idText? ((Change.ownShape id).apply item) = idText? item :=
  idText?_exchanged (fun _ _ same => same) ((Change.ownShape id).exchanged item)

theorem idText?_masterShape (id : String) (item : Json) :
    idText? ((Change.masterShape id).apply item) = idText? item :=
  idText?_exchanged (fun _ _ same => same) ((Change.masterShape id).exchanged item)

theorem layoutItem?_without (id : String) (layouts : Option Collection) (key : Option String) :
    layoutItem? (layouts.map (Collection.each (Change.ownShape id).apply)) key =
      (layoutItem? layouts key).map (Change.ownShape id).apply := by
  cases layouts with
  | none => rfl
  | some layouts =>
    cases layouts with
    | listed items => exact findById_map (idText?_ownShape id) items key
    | keyed entries =>
      cases key with
      | none => rfl
      | some key => exact get?_each _ entries key

def Resolved.without (id : String) (found : Resolved) : Resolved :=
  { master := found.master.map (Master.without id), layout := found.layout.without id }

theorem resolved?_without (lookup : LayoutLookup) (id : String) (slide : Slide) (deck : Deck) :
    resolved? lookup (slide.without id) (deck.without id) =
      (resolved? lookup slide deck).map (Resolved.without id) := by
  have layout (item : Json) (master : Option Master) :
      ((Layout.read ((Change.ownShape id).apply item)).toOption.bind fun layout =>
        some (⟨master.map (Master.without id), layout⟩ : Resolved)) =
      ((Layout.read item).toOption.bind fun layout => some (⟨master, layout⟩ : Resolved)).map
        (Resolved.without id) := by
    rw [Layout.read_without]
    cases (Layout.read item).toOption <;> rfl
  cases lookup with
  | map =>
    have item : layoutItem? (deck.without id).layouts (slide.without id).layout =
        (layoutItem? deck.layouts slide.layout).map (Change.ownShape id).apply :=
      layoutItem?_without id deck.layouts slide.layout
    unfold resolved?
    dsimp only
    rw [item]
    cases layoutItem? deck.layouts slide.layout with
    | none => rfl
    | some item => exact layout item none
  | masterList =>
    have item : findById (deck.without id).masters (slide.without id).master =
        (findById deck.masters slide.master).map (Change.masterShape id).apply :=
      findById_map (idText?_masterShape id) deck.masters slide.master
    unfold resolved?
    dsimp only
    rw [item]
    cases findById deck.masters slide.master with
    | none => rfl
    | some item =>
      rw [Option.map_some, Option.bind_some, Option.bind_some, Master.read_without]
      cases (Master.read item).toOption with
      | none => rfl
      | some master =>
        have item : findById (master.without id).layouts (slide.without id).layout =
            (findById master.layouts slide.layout).map (Change.ownShape id).apply :=
          findById_map (idText?_ownShape id) master.layouts slide.layout
        rw [Option.map_some, Option.bind_some, Option.bind_some, item]
        cases findById master.layouts slide.layout with
        | none => rfl
        | some item => exact layout item (some master)

/-! ## Plans -/

def Plan.without (id : String) (plan : Plan) : Plan :=
  { plan with shapes := erase plan.shapes id }

theorem scopeOf_without (id : String) (shapes : Option Collection) :
    scopeOf (shapes.map (Collection.without id)) = Scope.without id (scopeOf shapes) := by
  cases shapes with
  | none => rfl
  | some shapes => cases shapes <;> rfl

theorem scopes_without (id : String) (deck : Deck) (found : Resolved) (slide : Slide) :
    scopes (deck.without id) (found.without id) (slide.without id) =
      (scopes deck found slide).map (Scope.without id) := by
  have master : (found.without id).master.bind (·.shapes) =
      (found.master.bind (·.shapes)).map (Collection.without id) := by
    unfold Resolved.without
    cases found.master <;> rfl
  unfold scopes
  rw [master, List.map_cons, List.map_cons, List.map_cons, List.map_singleton]
  simp only [← scopeOf_without]
  rfl

theorem backgroundOf_without (id : String) (deck : Deck) (found : Resolved) (slide : Slide) :
    backgroundOf (deck.without id) (found.without id) (slide.without id) =
      backgroundOf deck found slide := by
  unfold backgroundOf Resolved.without
  cases found.master <;> rfl

theorem ofSlide_without {deck : Deck} {found : Resolved} {slide : Slide}
    (keyed : ∀ scope ∈ scopes deck found slide, ∀ items, scope ≠ .arr items) (id : String) :
    Plan.ofSlide (deck.without id) (slide.without id) (found.without id) =
      (Plan.ofSlide deck slide found).without id := by
  have shapes : shapesOf (deck.without id) (found.without id) (slide.without id) =
      erase (shapesOf deck found slide) id := by
    unfold shapesOf
    rw [scopes_without, mergeShapes_without keyed]
    exact applyOverrides_erase _ _ id
  unfold Plan.ofSlide Plan.without
  rw [shapes, backgroundOf_without]
  rfl

theorem located?_eq_some {lookup : LayoutLookup} {deck : Deck} {raw : Json} {slide : Slide}
    {found : Resolved} : located? lookup deck raw = some (slide, found) ↔
      Slide.read raw = .ok slide ∧ lookUp lookup slide deck = .ok (some found) := by
  unfold located?
  cases Slide.read raw with
  | error refusal => simp
  | ok read =>
    dsimp only
    constructor
    · intro located
      split at located
      · rename_i resolved
        cases located
        exact ⟨rfl, resolved⟩
      · cases located
    · rintro ⟨same, resolved⟩
      cases same
      rw [resolved]

theorem plan?_without {lookup : LayoutLookup} {deck : Deck} {raw : Json} (id : String)
    (keyed : ∀ slide found, located? lookup deck raw = some (slide, found) →
      ∀ scope ∈ scopes deck found slide, ∀ items, scope ≠ .arr items) :
    plan? lookup (deck.without id) ((Change.ownShape id).apply raw) =
      (plan? lookup deck raw).map (Plan.without id) := by
  simp only [located?_eq] at keyed
  rw [plan?, plan?, located?_eq, located?_eq, Slide.read_without]
  cases read : (Slide.read raw).toOption with
  | none => rfl
  | some slide =>
    rw [Option.map_some, Option.bind_some, Option.bind_some, resolved?_without]
    cases resolved : resolved? lookup slide deck with
    | none => rfl
    | some found =>
      have maps := keyed slide found (by rw [read, Option.bind_some, resolved, Option.bind_some])
      exact congrArg some (ofSlide_without maps id)

/-! ## Drawing -/

/-- A slide with its background layer, or as it is without one. Two slides that are restacked
differ in nothing but the height of that layer. -/
inductive Restacked : Markup → Markup → Prop where
  | same (slide : Markup) : Restacked slide slide
  | moved (id : Attribute) (background : Declarations) (z other : Int) (drawn : List Markup) :
      Restacked
        (Markup.division "slide" [id] (Markup.division "background"
          [Declarations.attribute (background ++ [⟨"z-index", toString z⟩])] [] :: drawn))
        (Markup.division "slide" [id] (Markup.division "background"
          [Declarations.attribute (background ++ [⟨"z-index", toString other⟩])] [] :: drawn))

theorem outcome_drawShapes_erase {c : Context} {id : String} {shapes : Shapes}
    (hidden : ∀ record, (id, record) ∈ shapes → (shape? c id (.obj record)).outcome = .ok none) :
    (drawShapes c (erase shapes id)).outcome = (drawShapes c shapes).outcome := by
  rw [outcome_drawShapes, outcome_drawShapes]
  refine mapM_filter fun entry member dropped => ?_
  obtain ⟨own, record⟩ := entry
  have here : own = id := by simpa using dropped
  subst here
  exact hidden record member

theorem backgroundLayer_erase {background : Declarations} {shapes : Shapes} (id : String)
    (fine : ∀ entry ∈ shapes, ¬ HeightFails entry.2) (name : Attribute)
    (drawn : List Markup) {layer : List Markup}
    (laid : backgroundLayer background shapes = .ok layer) :
    ∃ other, backgroundLayer background (erase shapes id) = .ok other ∧
      Restacked (Markup.division "slide" [name] (layer ++ drawn))
        (Markup.division "slide" [name] (other ++ drawn)) := by
  unfold backgroundLayer at laid ⊢
  by_cases nothing : List.isEmpty background = true
  · rw [if_pos nothing] at laid ⊢
    cases laid
    exact ⟨[], rfl, .same _⟩
  · rw [if_neg nothing] at laid ⊢
    obtain ⟨z, -, done⟩ := bind_eq_ok.mp laid
    cases done
    have rest : ∀ entry ∈ erase shapes id, ¬ HeightFails entry.2 :=
      fun entry member => fine entry (List.mem_of_mem_filter member)
    obtain ⟨other, height⟩ := returns_backgroundZ rest
    exact ⟨_, bind_eq_ok.mpr ⟨other, height, rfl⟩, .moved name background z other drawn⟩

theorem draw_without {policy : RenderPolicy} {tokens : Tokens} {plan : Plan} {id : String}
    (hidden : ∀ record, (id, record) ∈ plan.shapes →
      (shape? { policy, tokens, values := plan.values } id (.obj record)).outcome = .ok none)
    {slide : Markup} (drawn : plan.draw policy tokens = .ok slide) :
    ∃ other, (plan.without id).draw policy tokens = .ok other ∧
      Restacked slide other ∧ (policy.backgroundMode = .inline → other = slide) := by
  unfold Plan.draw at drawn ⊢
  obtain ⟨ordered, sorted, drawn⟩ := bind_eq_ok.mp drawn
  obtain ⟨shapes, shown, drawn⟩ := bind_eq_ok.mp drawn
  have still : sortByZ (plan.without id).shapes = .ok (erase ordered id) :=
    sortByZ_filter (fun entry => decide (entry.1 ≠ id)) sorted
  have same : (drawShapes { policy, tokens, values := plan.values } (erase ordered id)).outcome =
      .ok shapes := by
    rw [← shown]
    refine outcome_drawShapes_erase fun record member => ?_
    exact hidden record ((sortByZ_perm sorted).mem_iff.mp member)
  cases mode : policy.backgroundMode with
  | inline =>
    rw [mode] at drawn
    exact ⟨slide, bind_eq_ok.mpr ⟨_, still, bind_eq_ok.mpr ⟨shapes, same, drawn⟩⟩, .same slide,
      fun _ => rfl⟩
  | layer =>
    rw [mode] at drawn
    obtain ⟨layer, laid, done⟩ := bind_eq_ok.mp drawn
    cases done
    have fine : ∀ entry ∈ ordered, ¬ HeightFails entry.2 := by
      intro entry member
      exact returns_sortByZ.mp ⟨ordered, sorted⟩ entry ((sortByZ_perm sorted).mem_iff.mp member)
    obtain ⟨other, moved, restacked⟩ :=
      backgroundLayer_erase id fine ⟨.slideId, plan.id⟩ shapes laid
    refine ⟨_, bind_eq_ok.mpr ⟨_, still, bind_eq_ok.mpr ⟨shapes, same, ?_⟩⟩, restacked,
      fun inline => nomatch inline⟩
    exact bind_eq_ok.mpr ⟨other, moved, rfl⟩

/-! ## Decks -/

theorem plans?_without {lookup : LayoutLookup} {deck : Deck} (id : String)
    (keyed : ∀ slides, deck.slides = some slides → ∀ raw ∈ slides, ∀ slide found,
      located? lookup deck raw = some (slide, found) →
      ∀ scope ∈ scopes deck found slide, ∀ items, scope ≠ .arr items) :
    plans? lookup (deck.without id) = (plans? lookup deck).map (List.map (Plan.without id)) := by
  have own : (deck.without id).slides = deck.slides.map (List.map (Change.ownShape id).apply) := rfl
  unfold plans?
  rw [own]
  cases known : deck.slides with
  | none => rfl
  | some slides =>
    refine congrArg some ?_
    change (slides.map (Change.ownShape id).apply).filterMap (plan? lookup (deck.without id)) =
      (slides.filterMap (plan? lookup deck)).map (Plan.without id)
    rw [List.filterMap_map, List.map_filterMap]
    exact List.filterMap_congr fun raw member => plan?_without id (keyed slides known raw member)

structure Placed (policy : RenderPolicy) (document : Json) (deck : Deck) (slide : Slide)
    (found : Resolved) : Prop where
  ofDocument : Deck.reading? document = some deck
  ofSlides : ∃ slides, deck.slides = some slides ∧ ∃ raw ∈ slides, Slide.read raw = .ok slide
  resolved : lookUp policy.layoutLookup slide deck = .ok (some found)

/-- On every slide that is drawn the shapes stand in maps. -/
def KeyedShapes (policy : RenderPolicy) (document : Json) : Prop :=
  ∀ deck slide found, Placed policy document deck slide found →
    ∀ scope ∈ scopes deck found slide, ∀ items, scope ≠ .arr items

/-- On every slide that is drawn nothing is drawn of a shape, once it is merged and patched. -/
def Hides (policy : RenderPolicy) (document : Json) (id : String) : Prop :=
  ∀ deck slide found, Placed policy document deck slide found →
    ∀ record, get? (shapesOf deck found slide) id = some record →
      (shape? { policy, tokens := tokensOf policy deck, values := slide.values } id
        (.obj record)).outcome = .ok none

theorem distinct_applyOverrides {shapes : Shapes} (distinct : Distinct shapes)
    (patches : List Json) : Distinct (applyOverrides shapes patches) := by
  rw [Distinct, keys_applyOverrides]
  exact distinct

theorem hidden_of_plans {policy : RenderPolicy} {document : Json} {id : String} {deck : Deck}
    (hides : Hides policy document id) (read : Deck.reading? document = some deck)
    {plans : List Plan} (planned : plans? policy.layoutLookup deck = some plans) {plan : Plan}
    (member : plan ∈ plans) (record : Record Json) (shape : (id, record) ∈ plan.shapes) :
    (shape? { policy, tokens := tokensOf policy deck, values := plan.values } id
      (.obj record)).outcome = .ok none := by
  obtain ⟨slides, known, rfl⟩ := Option.map_eq_some_iff.mp planned
  obtain ⟨raw, listed, drawn⟩ := List.mem_filterMap.mp member
  obtain ⟨⟨slide, found⟩, located, rfl⟩ := Option.map_eq_some_iff.mp drawn
  obtain ⟨readSlide, resolved⟩ := located?_eq_some.mp located
  have distinct : Distinct (shapesOf deck found slide) :=
    distinct_applyOverrides (tidy_mergeShapes _).ids _
  exact hides deck slide found ⟨read, ⟨slides, known, raw, listed, readSlide⟩, resolved⟩ record
    ((get?_eq_some_iff distinct).mpr shape)

theorem draws_without {policy : RenderPolicy} {tokens : Tokens} {id : String} {plans : List Plan}
    (hidden : ∀ plan ∈ plans, ∀ record, (id, record) ∈ plan.shapes →
      (shape? { policy, tokens, values := plan.values } id (.obj record)).outcome = .ok none)
    {slides : List Markup} (drawn : plans.mapM (Plan.draw policy tokens) = .ok slides) :
    ∃ others, (plans.map (Plan.without id)).mapM (Plan.draw policy tokens) = .ok others ∧
      List.Forall₂ Restacked slides others ∧
      (policy.backgroundMode = .inline → others = slides) := by
  have steps := mapM_eq_ok_iff.mp drawn
  simp only [mapM_eq_ok_iff, List.forall₂_map_left_iff]
  clear drawn
  induction steps with
  | nil => exact ⟨[], .nil, .nil, fun _ => rfl⟩
  | cons first _ ih =>
    rw [List.forall_mem_cons] at hidden
    obtain ⟨other, moved, restacked, inline⟩ := draw_without hidden.1 first
    obtain ⟨others, rest, each, alike⟩ := ih hidden.2
    exact ⟨other :: others, .cons moved rest, .cons restacked each,
      fun mode => congrArg₂ List.cons (inline mode) (alike mode)⟩

/-- Texts of a deck that are the same, or that differ in the heights of background layers. -/
inductive Undisturbed (policy : RenderPolicy) : String → String → Prop where
  | same (html : String) : Undisturbed policy html html
  | restacked (layered : policy.backgroundMode = .layer) (deck : Deck) {slides others : List Markup}
      (each : List.Forall₂ Restacked slides others) :
      Undisturbed policy (fragment policy deck slides).render (fragment policy deck others).render

theorem undisturbed_fragment {policy : RenderPolicy} (deck : Deck) {slides others : List Markup}
    (each : List.Forall₂ Restacked slides others)
    (inline : policy.backgroundMode = .inline → others = slides) :
    Undisturbed policy (fragment policy deck slides).render
      (fragment policy deck others).render := by
  cases mode : policy.backgroundMode with
  | inline =>
    rw [inline mode]
    exact .same _
  | layer => exact .restacked mode deck each

theorem deck?_without {policy : RenderPolicy} {deck : Deck} {id : String} {drawn : Option Markup}
    (keyed : ∀ slides, deck.slides = some slides → ∀ raw ∈ slides, ∀ slide found,
      located? policy.layoutLookup deck raw = some (slide, found) →
      ∀ scope ∈ scopes deck found slide, ∀ items, scope ≠ .arr items)
    (hidden : ∀ plans, plans? policy.layoutLookup deck = some plans → ∀ plan ∈ plans, ∀ record,
      (id, record) ∈ plan.shapes →
      (shape? { policy, tokens := tokensOf policy deck, values := plan.values } id
        (.obj record)).outcome = .ok none)
    (done : (deck? policy deck).outcome = .ok drawn) :
    ∃ other, (deck? policy (deck.without id)).outcome = .ok other ∧
      Undisturbed policy (fragmentText drawn) (fragmentText other) := by
  have whole (slides : List Markup) :
      fragment policy (deck.without id) slides = fragment policy deck slides :=
    fragment_congr rfl rfl rfl rfl slides
  rw [outcome_deck?_eq] at done ⊢
  rw [plans?_without id keyed]
  cases planned : plans? policy.layoutLookup deck with
  | none =>
    rw [planned] at done
    cases done
    exact ⟨none, rfl, .same ""⟩
  | some plans =>
    rw [planned] at done
    dsimp only [Option.map_some] at done ⊢
    have version : (deck.without id).version = deck.version := rfl
    rw [version]
    by_cases refused : (policy.checkVersion && !supported deck.version) = true
    · rw [if_pos refused] at done ⊢
      cases done
      exact ⟨none, rfl, .same ""⟩
    · rw [if_neg refused] at done ⊢
      obtain ⟨slides, walk, same⟩ := bind_eq_ok.mp done
      cases same
      obtain ⟨others, moved, each, inline⟩ := draws_without (hidden plans planned) walk
      refine ⟨_, bind_eq_ok.mpr ⟨others, moved, rfl⟩, ?_⟩
      rw [whole]
      exact undisturbed_fragment deck each inline

theorem render_without {policy : RenderPolicy} {document : Json} {id html : String}
    (keyed : KeyedShapes policy document) (hides : Hides policy document id)
    (rendered : (render policy document).outcome = .ok html) :
    ∃ other, (render policy ((Change.deckShape id).apply document)).outcome = .ok other ∧
      Undisturbed policy html other := by
  rw [outcome_render, outcome_document?, Deck.outcome_readLeniently_eq] at rendered ⊢
  rw [Deck.reading?_without]
  cases read : Deck.reading? document with
  | none =>
    rw [read] at rendered
    exact ⟨html, rendered, .same html⟩
  | some deck =>
    rw [read] at rendered
    obtain ⟨drawn, done, same⟩ := bind_eq_ok.mp rendered
    cases same
    have maps : ∀ slides, deck.slides = some slides → ∀ raw ∈ slides, ∀ slide found,
        located? policy.layoutLookup deck raw = some (slide, found) →
        ∀ scope ∈ scopes deck found slide, ∀ items, scope ≠ .arr items := by
      intro slides known raw member slide found located
      obtain ⟨readSlide, resolved⟩ := located?_eq_some.mp located
      exact keyed deck slide found ⟨read, ⟨slides, known, raw, member, readSlide⟩, resolved⟩
    obtain ⟨other, moved, undisturbed⟩ := deck?_without maps
      (fun plans planned plan member => hidden_of_plans hides read planned member) done
    exact ⟨fragmentText other, bind_eq_ok.mpr ⟨other, moved, rfl⟩, undisturbed⟩

/-! ## Slides that fail -/

theorem get?_withoutNulls_put (r : Record Json) (key : String) {value : Json}
    (given : value.isNull = false) (name : String) :
    get? (withoutNulls (r.put key value)) name =
      if key = name then some value else get? (withoutNulls r) name := by
  induction r with
  | nil => simp [put, withoutNulls, get?, given]
  | cons field rest ih =>
    have step (entry : String × Json) (others : Record Json) :
        get? (withoutNulls (entry :: others)) name =
          if entry.2.isNull = false ∧ entry.1 = name then some entry.2
          else get? (withoutNulls others) name := by
      cases null : entry.2.isNull with
      | true => simp [withoutNulls, null]
      | false => simp [withoutNulls, null, get?]
    by_cases here : field.1 = key
    · rw [put, if_pos here, step, step]
      by_cases same : field.1 = name
      · simp [given, same, here ▸ same]
      · have other : key ≠ name := here ▸ same
        simp [same, other]
    · rw [put, if_neg here, step, step, ih]
      by_cases same : key = name
      · have other : field.1 ≠ name := same ▸ here
        simp [same, other]
      · simp [same]

/-- A slide that cannot be read, or for which there is no layout. -/
def Unplaced (policy : RenderPolicy) (deck : Deck) (raw : Json) : Prop :=
  ∀ slide found, Slide.read raw = .ok slide →
    lookUp policy.layoutLookup slide deck ≠ .ok (some found)

theorem alikeDecks_unplaced {policy : RenderPolicy} {deck : Deck} {before after : List Json}
    {raw : Json} (listed : deck.slides = some (before ++ raw :: after))
    (fails : Unplaced policy deck raw) :
    AlikeDecks policy deck { deck with slides := some (before ++ after) } := by
  have unplanned : plan? policy.layoutLookup deck raw = none := by
    refine Option.map_eq_none_iff.mpr (Option.eq_none_iff_forall_ne_some.mpr ?_)
    rintro ⟨slide, found⟩ located
    obtain ⟨read, resolved⟩ := located?_eq_some.mp located
    exact fails slide found read resolved
  have plans : plans? policy.layoutLookup { deck with slides := some (before ++ after) } =
      plans? policy.layoutLookup deck := by
    have others : plans? policy.layoutLookup { deck with slides := some (before ++ after) } =
        some ((before ++ after).filterMap (plan? policy.layoutLookup deck)) := rfl
    rw [others, plans?, listed, Option.map_some, List.filterMap_append, List.filterMap_append,
      List.filterMap_cons_none unplanned]
  constructor
  case plans =>
    rw [plans]
    exact plans_refl _
  case tokens => exact ⟨fun _ => rfl, fun _ => rfl⟩
  all_goals first | rfl | exact fun _ => rfl

theorem render_unplaced {policy : RenderPolicy} {fields : Record Json} {before after : List Json}
    {raw : Json}
    (listed : get? (withoutNulls fields) "slides" = some (.arr (before ++ raw :: after)))
    (fails : ∀ deck, Deck.reading? (.obj fields) = some deck → Unplaced policy deck raw) :
    (render policy (.obj (fields.put "slides" (.arr (before ++ after))))).outcome =
      (render policy (.obj fields)).outcome := by
  have entries := get?_withoutNulls_put fields "slides"
    (show (Json.arr (before ++ after)).isNull = false from rfl)
  have same : SameBeside ["slides"] fields (fields.put "slides" (.arr (before ++ after))) := by
    intro name apart
    have other : "slides" ≠ name := fun here => apart (List.mem_singleton.mpr here.symm)
    rw [entries, if_neg other]
  have left := entries "slides"
  rw [if_pos rfl] at left
  have deck : Deck.ofRecord (withoutNulls (fields.put "slides" (.arr (before ++ after)))) =
      { Deck.ofRecord (withoutNulls fields) with slides := some (before ++ after) } := by
    have masters : (withoutNulls (fields.put "slides" (.arr (before ++ after)))).value?
        Reader.list ["masters"] = (withoutNulls fields).value? Reader.list ["masters"] :=
      same.value? Reader.list (by decide)
    rw [(same.mono (by decide)).ofRecord, Deck.slides_ofRecord.mpr left]
    unfold Deck.ofRecord
    rw [masters]
  apply outcome_render_alike
  unfold Deck.reading? at fails ⊢
  dsimp only at fails ⊢
  rw [listed] at fails
  rw [same.broken (by decide), listed, left]
  split
  · exact .none
  · rename_i whole
    rw [deck]
    exact .some (alikeDecks_unplaced (Deck.slides_ofRecord.mpr listed) (fails _ (if_neg whole)))

/-- Failures are local: what cannot be drawn may as well be missing. -/
theorem render_local (policy : RenderPolicy) :
    (∀ (fields : Record Json) (before after : List Json) (raw : Json),
      get? (withoutNulls fields) "slides" = some (.arr (before ++ raw :: after)) →
      (∀ deck, Deck.reading? (.obj fields) = some deck → Unplaced policy deck raw) →
      (render policy (.obj (fields.put "slides" (.arr (before ++ after))))).outcome =
        (render policy (.obj fields)).outcome) ∧
    (∀ (document : Json) (id html : String), KeyedShapes policy document →
      Hides policy document id → (render policy document).outcome = .ok html →
      ∃ other, (render policy ((Change.deckShape id).apply document)).outcome = .ok other ∧
        Undisturbed policy html other) := by
  constructor
  · intro fields before after raw listed fails
    exact render_unplaced listed fails
  · intro document id html keyed hides rendered
    exact render_without keyed hides rendered

/-! A slide with a background below three shapes, of which the second cannot be read and stands
lowest, and a slide that is none. -/

def layeredPolicy : RenderPolicy :=
  { RenderPolicy.keyed with backgroundMode := .layer }

def ghostShapes : Shapes :=
  [("top", [("type", .str "text"), ("text", .str "One"), ("z", .int 2)]),
    ("ghost", [("z", .int (-5)), ("x", .arr [])]),
    ("low", [("type", .str "text"), ("text", .str "Two"), ("z", .int 1)])]

def ghostSlide : Record Json :=
  [("layout", .str "plain"), ("bg", .obj [("fill", .str "red")]),
    ("shapes", .obj (ghostShapes.map fun (id, record) => (id, .obj record)))]

def ghostDeck : Record Json :=
  [("layouts", .obj [("plain", .obj [])]), ("slides", .arr [.obj ghostSlide, .null])]

theorem placed_ghost {deck : Deck} {slide : Slide} {found : Resolved}
    (placed : Placed layeredPolicy (.obj ghostDeck) deck slide found) :
    deck = Deck.ofRecord ghostDeck ∧ slide = Slide.ofRecord ghostSlide ∧
      found = ⟨none, Layout.ofRecord []⟩ := by
  obtain ⟨read, ⟨slides, known, raw, member, readSlide⟩, resolved⟩ := placed
  cases read
  cases known
  rcases List.mem_cons.mp member with rfl | null
  · cases readSlide
    cases resolved
    exact ⟨rfl, rfl, rfl⟩
  · cases List.mem_singleton.mp null
    cases readSlide

theorem renders_ghost : ∃ html, (render layeredPolicy (.obj ghostDeck)).outcome = .ok html := by
  rw [outcome_render]
  refine (returns_last fun drawn => returns_ok _).mpr (returns_document?.mpr ?_)
  rintro ⟨deck, read, slides, known, -, raw, member, slide, found, readSlide, resolved, fails⟩
  rw [Deck.outcome_readLeniently_eq] at read
  obtain ⟨rfl, rfl, rfl⟩ := placed_ghost
    ⟨Except.ok.inj read, ⟨slides, known, raw, member, readSlide⟩, resolved⟩
  obtain ⟨entry, member, fails⟩ := fails
  have low : ∀ entry ∈ ghostShapes, ¬ Cascade.HeightFails entry.2 := by
    intro entry member ⟨z, height, n, large, beyond⟩
    simp only [ghostShapes, List.mem_cons, List.not_mem_nil, or_false] at member
    rcases member with rfl | rfl | rfl <;> cases height <;> cases large <;>
      exact absurd beyond (by decide +kernel)
  change entry ∈ ghostShapes at member
  rcases fails with high | ⟨s, family, readShape, drawn, -⟩
  · exact low entry member high
  · simp only [ghostShapes, List.mem_cons, List.not_mem_nil, or_false] at member
    rcases member with rfl | rfl | rfl <;> cases readShape <;> cases drawn

theorem render_local_ghost :
    (render layeredPolicy (.obj (ghostDeck.put "slides" (.arr [.obj ghostSlide])))).outcome =
      (render layeredPolicy (.obj ghostDeck)).outcome ∧
    ∃ html other, (render layeredPolicy (.obj ghostDeck)).outcome = .ok html ∧
      (render layeredPolicy ((Change.deckShape "ghost").apply (.obj ghostDeck))).outcome =
        .ok other ∧ Undisturbed layeredPolicy html other := by
  constructor
  · refine (render_local layeredPolicy).1 ghostDeck [.obj ghostSlide] [] .null rfl ?_
    intro deck _ slide found readSlide
    cases readSlide
  · obtain ⟨html, rendered⟩ := renders_ghost
    have keyed : KeyedShapes layeredPolicy (.obj ghostDeck) := by
      intro deck slide found placed scope member items list
      obtain ⟨rfl, rfl, rfl⟩ := placed_ghost placed
      simp only [scopes, list, List.mem_cons, List.not_mem_nil, or_false] at member
      rcases member with own | own | own | own <;> cases own
    have hides : Hides layeredPolicy (.obj ghostDeck) "ghost" := by
      intro deck slide found placed record known
      obtain ⟨rfl, rfl, rfl⟩ := placed_ghost placed
      cases known
      rfl
    obtain ⟨other, moved, undisturbed⟩ :=
      (render_local layeredPolicy).2 (.obj ghostDeck) "ghost" html keyed hides rendered
    exact ⟨html, other, rendered, moved, undisturbed⟩

end DeckPress.Drawing
