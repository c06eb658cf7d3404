import DeckPress.Proofs.Drawing.Integrity
import DeckPress.Proofs.Json.Equality
import DeckPress.Proofs.Service.Answer

/-!
One order, one fragment. What is rendered depends on the order alone and not on the endpoint that
took it: the two endpoints for orders agree, and a deck of the library is shown as an order for the
document that the library serves, with the convention of its own shape unless one is chosen.
-/

namespace DeckPress.Service

variable {request : Request} {values : Record Json}

/-! ## Orders -/

def Order.document (order : Order) : Json :=
  .obj [("deck", (order.deck.map Json.obj).getD .null),
    ("layout_lookup", (order.choice.lookup.map fun lookup => .str lookup.name).getD .null),
    ("token_resolution", (order.choice.tokens.map Json.bool).getD .null)]

theorem Order.ofDocument_document (order : Order) :
    ofDocument (.ok order.document) = .ok order := by
  obtain ⟨deck, lookup, tokens⟩ := order
  rcases lookup with _ | (_ | _) <;> cases deck <;> cases tokens <;> rfl

/-- A request that brings a document in its body. -/
structure Carries (request : Request) (document : Json) : Prop where
  filled : request.body ≠ ""
  typed : Order.isJsonType ((request.header? "content-type").getD "") = true
  reads : ∃ text, Order.bodyText? request.body = some text ∧ Json.readChars text = .ok document

theorem Order.ofRequest_of_carries {order : Order} (carries : Carries request order.document) :
    ofRequest request = .ok order := by
  obtain ⟨text, decoded, read⟩ := carries.reads
  rw [ofRequest, if_neg carries.filled]
  simp only [carries.typed, decoded, read, ofDocument_document]
  rfl

theorem Order.ofRequest_congr {other : Request} (body : request.body = other.body)
    (type : request.header? "content-type" = other.header? "content-type") :
    ofRequest request = ofRequest other := by
  rw [ofRequest, ofRequest, body, type]

/-! ## Agreement -/

def filled (deck : Record Json) (name : String) : Bool :=
  (deck.get? name).any Json.truthy

theorem conventionOf_eq (deck : Record Json) : conventionOf deck =
    if filled deck "masters" ∧ ¬ filled deck "layouts" then some .masterList else none := by
  have same (name : String) :
      ((deck.get? name).map Json.truthy).getD false = filled deck name := by
    unfold filled
    cases deck.get? name <;> rfl
  simp [conventionOf, same]

namespace App

variable (app : App)

/-- The endpoint that a request is passed to, and the values that its path gives. -/
def target? (request : Request) : Option (Endpoint × Record Json) :=
  match Route.pass (rules app.settings) request.method request.decodedPath with
  | .ok (.taken endpoint values) => some (endpoint, values)
  | _ => none

def Posts (request : Request) (endpoint : Endpoint) : Prop :=
  request.method = "POST" ∧ (app.target? request).map (·.1) = some endpoint

instance (request : Request) (endpoint : Endpoint) : Decidable (app.Posts request endpoint) :=
  inferInstanceAs (Decidable (_ ∧ _))

/-- What a request asks for of the library, when its path gives some values. -/
def inquiry (request : Request) (values : Record Json) : Endpoint → Except Rejection Inquiry
  | .sampleHtml =>
    Parameters.inquiry ⟨app.settings.mount ++ samplePath ++ "/html", values, request⟩ true
  | _ => Parameters.inquiry ⟨app.settings.mount ++ samplePath, values, request⟩ false

/-- A request that asks an endpoint for a deck of the library, with the choices of its query. -/
def Asks (request : Request) (endpoint : Endpoint) (name : String) (choice : Choice) : Prop :=
  request.method = "GET" ∧
    ((app.target? request).bind fun target => if target.1 = endpoint then
      (app.inquiry request target.2 endpoint).toOption.map fun inquiry =>
        (inquiry.name, inquiry.choice) else none) = some (name, choice)

instance (request : Request) (endpoint : Endpoint) (name : String) (choice : Choice) :
    Decidable (app.Asks request endpoint name choice) :=
  inferInstanceAs (Decidable (_ ∧ _))

/-- The document of a name is sent as it is stored. -/
def Faithful (name : String) : Prop :=
  ∀ deck, (app.store.get? name).outcome = .ok (some deck) →
    (Json.obj deck).served? = some (.obj deck)

variable {app} {x y : Body}

theorem pass_of_target? {endpoint : Endpoint}
    (found : app.target? request = some (endpoint, values)) :
    Route.pass (rules app.settings) request.method request.decodedPath =
      .ok (.taken endpoint values) := by
  unfold target? at found
  split at found
  next passed =>
    cases found
    exact passed
  next => cases found

theorem Posts.passed {endpoint : Endpoint} (posts : app.Posts request endpoint) :
    request.method ≠ "OPTIONS" ∧ ∃ values,
      Route.pass (rules app.settings) request.method request.decodedPath =
        .ok (.taken endpoint values) := by
  obtain ⟨method, target⟩ := posts
  obtain ⟨⟨_, values⟩, found, rfl⟩ := Option.map_eq_some_iff.mp target
  exact ⟨by simp [method], values, pass_of_target? found⟩

theorem Asks.passed {endpoint : Endpoint} {name : String} {choice : Choice}
    (asks : app.Asks request endpoint name choice) :
    request.method ≠ "OPTIONS" ∧ ∃ values,
      Route.pass (rules app.settings) request.method request.decodedPath =
        .ok (.taken endpoint values) ∧
      app.inquiry request values endpoint = .ok { name, choice } := by
  obtain ⟨method, target⟩ := asks
  obtain ⟨⟨taken, values⟩, found, read⟩ := Option.bind_eq_some_iff.mp target
  split at read
  next same =>
    cases same
    obtain ⟨inquiry, asked, same⟩ := Option.map_eq_some_iff.mp read
    cases same
    exact ⟨by simp [method], values, pass_of_target? found, eq_ok_of_toOption asked⟩
  next => cases read

theorem Posts.render_iff (posts : app.Posts request .render) : app.Answers request x ↔
    ∃ order html, Order.ofRequest request = .ok order ∧
      (renderOrder app.settings order).outcome = .ok html ∧ Text.hasHalf html = false ∧
      x = .json (rendered html) := by
  obtain ⟨method, values, passed⟩ := posts.passed
  simp only [answers_iff method passed, sends_render, exists_const]

theorem Posts.renderHtml_iff (posts : app.Posts request .renderHtml) : app.Answers request x ↔
    ∃ order html, Order.ofRequest request = .ok order ∧
      (renderOrder app.settings order).outcome = .ok html ∧ Text.hasHalf html = false ∧
      x = .html html := by
  obtain ⟨method, values, passed⟩ := posts.passed
  simp only [answers_iff method passed, sends_renderHtml, exists_const]

theorem Asks.sample_iff {name : String} {choice : Choice}
    (asks : app.Asks request .sample name choice) : app.Answers request x ↔
    ∃ deck served, (app.store.get? name).outcome = .ok (some deck) ∧
      (Json.obj deck).served? = some served ∧ x = .json served := by
  obtain ⟨method, values, passed, read⟩ := asks.passed
  simp only [inquiry] at read
  simp only [answers_iff method passed, sends_sample, read, Except.ok.injEq, exists_and_left,
    exists_eq_left', exists_const]

theorem Asks.sampleHtml_iff {name : String} {choice : Choice}
    (asks : app.Asks request .sampleHtml name choice) : app.Answers request x ↔
    ∃ deck html, (app.store.get? name).outcome = .ok (some deck) ∧
      (renderSample app.settings choice deck).outcome = .ok html ∧ Text.hasHalf html = false ∧
      x = .html html := by
  obtain ⟨method, values, passed, read⟩ := asks.passed
  simp only [inquiry] at read
  simp only [answers_iff method passed, sends_sampleHtml, read, Except.ok.injEq, exists_and_left,
    exists_eq_left', exists_const]

/-- Wherever an order goes and however a deck of the library is asked for, the fragment is the
same. -/
theorem endpoints_agree (app : App) :
    (∀ (one other : Request) (x y : Body), one.body = other.body →
      one.header? "content-type" = other.header? "content-type" →
      app.Posts one .render → app.Posts other .renderHtml →
      app.Answers one x → app.Answers other y →
      ∃ html, x = .json (.obj [("html", .str html), ("empty", .bool (html = ""))]) ∧
        y = .html html) ∧
    ∀ (sample page order : Request) (name : String) (deck : Record Json)
      (lookup : Option LayoutLookup) (tokens : Option Bool) (x y : Body), app.Faithful name →
      app.Asks sample .sample name {} → app.Answers sample (.json (.obj deck)) →
      app.Asks page .sampleHtml name { lookup, tokens } → app.Answers page x →
      app.Posts order .renderHtml →
      Carries order (Order.document { deck := some deck, choice := {
        lookup := lookup <|>
          if filled deck "masters" ∧ ¬ filled deck "layouts" then some .masterList else none
        tokens } }) →
      app.Answers order y → ∃ html, x = .html html ∧ y = .html html := by
  constructor
  · intro one other x y body type toRender toHtml first second
    obtain ⟨order, html, taken, drawn, -, rfl⟩ := toRender.render_iff.mp first
    obtain ⟨again, html', taken', drawn', -, rfl⟩ := toHtml.renderHtml_iff.mp second
    cases taken.symm.trans ((Order.ofRequest_congr body type).trans taken')
    cases drawn.symm.trans drawn'
    exact ⟨html, rfl, rfl⟩
  · intro sample page order name deck lookup tokens x y faithful asks served asksPage first posts
      carries second
    obtain ⟨stored, document, found, sent, same⟩ := asks.sample_iff.mp served
    cases (faithful stored found).symm.trans sent
    cases same
    obtain ⟨again, html, found', drawn, -, rfl⟩ := asksPage.sampleHtml_iff.mp first
    cases found.symm.trans found'
    obtain ⟨_, html', taken, ordered, -, rfl⟩ := posts.renderHtml_iff.mp second
    cases (Order.ofRequest_of_carries carries).symm.trans taken
    rw [renderSample, conventionOf_eq] at drawn
    rw [outcome_renderOrder] at ordered
    cases drawn.symm.trans ordered
    exact ⟨html, rfl, rfl⟩

/-! A library with one deck, which has masters. -/

def talkDeck : Record Json :=
  let title : Record Json := [("type", .str "text"), ("text", .str "Hi"), ("color", .str "red")]
  let layout : Record Json := [("id", .str "a"), ("shapes", .obj [("t", .obj title)])]
  [("masters", .arr [.obj [("id", .str "m"), ("layouts", .arr [.obj layout])]]),
    ("colors", .obj [("red", .str "blue")]),
    ("slides", .arr [.obj [("master", .str "m"), ("layout", .str "a")]])]

def talkText : String :=
  "\x7b\"masters\":[\x7b\"id\":\"m\",\"layouts\":[\x7b\"id\":\"a\",\"shapes\":" ++
    "\x7b\"t\":\x7b\"type\":\"text\",\"text\":\"Hi\",\"color\":\"red\"\x7d\x7d\x7d]\x7d]," ++
    "\"colors\":\x7b\"red\":\"blue\"\x7d,\"slides\":[\x7b\"master\":\"m\",\"layout\":\"a\"\x7d]\x7d"

def talk : App where
  settings :=
    { appName := "Slidemark", appVersion := "1.0.0", host := "0.0.0.0", port := 8000
      debug := false, logLevel := "INFO", corsOrigins := [], mount := "/api/v1"
      libraryPath := some "decks", layoutLookup := "map", tokenResolution := none
      deckClass := "slidemark-deck" }
  store := { place := "decks", directory? := some [("talk.json", .file talkText)] }
  named := by decide
  mountable := by decide

def talkCall (method path query body : String) : Request :=
  { method, server := "localhost", path, query, client := none, body
    headers := [("content-type", "application/json")] }

def talkSample : Request :=
  talkCall "GET" "/api/v1/samples/talk" "" ""

def talkPage (query : String) : Request :=
  talkCall "GET" "/api/v1/samples/talk/html" query ""

def talkOrder (path : String) : Request :=
  talkCall "POST" path "" ("\x7b\"deck\":" ++ talkText ++
    ",\"layout_lookup\":\"master_list\",\"token_resolution\":true\x7d")

theorem stored_talk : (talk.store.get? "talk").outcome = .ok (some talkDeck) := by
  decide +kernel

theorem faithful_talk : talk.Faithful "talk" := by
  intro deck found
  cases stored_talk.symm.trans found
  decide +kernel

def talkAsked : Order :=
  { deck := some talkDeck, choice := { lookup := some .masterList, tokens := some true } }

theorem carries_talkOrder : Carries (talkOrder "/api/v1/render/html") talkAsked.document := by
  have read : (Order.bodyText? (talkOrder "/api/v1/render/html").body).any (fun text =>
      Json.readChars text = .ok talkAsked.document) = true := by decide +kernel
  obtain ⟨text, decoded, same⟩ := (Option.any_eq_true _ _).mp read
  exact ⟨by decide +kernel, by decide +kernel, text, decoded, of_decide_eq_true same⟩

def Blue (slides : List Markup) : Prop :=
  "color: blue".toList <:+: Markup.childrenChars slides

instance (slides : List Markup) : Decidable (Blue slides) :=
  inferInstanceAs (Decidable (_ <:+: _))

def talkSlides (policy : RenderPolicy) : Except NumberError (List Markup) :=
  (Drawing.drawSlides policy (.ofRecord talkDeck)
    [.obj [("master", .str "m"), ("layout", .str "a")]]).outcome

def talkFragment (slides : List Markup) : String :=
  (Drawing.fragment .keyed (.ofRecord talkDeck) slides).render

def drawsTalk (choice : Choice) (blue : Bool) : Bool :=
  (talk.settings.policy (choice.lookup.map LayoutLookup.name) choice.tokens).toOption.any
    fun policy => policy.deckClass.text = "slidemark-deck" &&
      (talkSlides policy).toOption.any fun slides =>
        Text.isPlain (Markup.childrenChars slides) && decide (Blue slides) == blue

theorem hasHalf_talkFragment {slides : List Markup}
    (plain : Text.isPlain (Markup.childrenChars slides) = true) :
    Text.hasHalf (talkFragment slides) = false := by
  have sheet : Text.isPlain (Style.sheet .default (.ofRecord talkDeck)).toList = true :=
    Style.all_sheet (by decide) (by decide +kernel)
  refine Text.hasHalf_of_plain ?_
  rw [talkFragment, Markup.render, String.toList_ofList, Drawing.chars_fragment,
    Drawing.frontChars]
  simp only [Text.isPlain, List.all_append, Bool.and_eq_true] at sheet plain ⊢
  exact ⟨⟨⟨⟨by decide +kernel, sheet⟩, by decide⟩, plain⟩, by decide⟩

theorem rendered_talk (choice : Choice) (blue : Bool) (drawn : drawsTalk choice blue = true) :
    ∃ slides, (renderAs talk.settings choice (.obj talkDeck)).outcome = .ok (talkFragment slides) ∧
      Text.hasHalf (talkFragment slides) = false ∧ decide (Blue slides) = blue := by
  obtain ⟨policy, chosen, drawn⟩ := (Option.any_eq_true _ _).mp drawn
  obtain ⟨named, drawn⟩ := Bool.and_eq_true_iff.mp drawn
  obtain ⟨slides, done, found⟩ := (Option.any_eq_true _ _).mp drawn
  obtain ⟨plain, color⟩ := Bool.and_eq_true_iff.mp found
  have given : (Deck.ofRecord talkDeck).slides =
      some [.obj [("master", .str "m"), ("layout", .str "a")]] := rfl
  have accepted : (policy.checkVersion && !Drawing.supported (Deck.ofRecord talkDeck).version) =
      false := Bool.and_false _
  have document : (Drawing.document? policy (.obj talkDeck)).outcome =
      .ok (some (Drawing.fragment policy (.ofRecord talkDeck) slides)) := by
    rw [Drawing.outcome_document?, Deck.outcome_readLeniently_eq]
    change (Drawing.deck? policy (.ofRecord talkDeck)).outcome = _
    rw [Drawing.outcome_deck?, given]
    dsimp only
    rw [accepted, ← talkSlides, eq_ok_of_toOption done]
    rfl
  have classes : policy.deckClass = .default := by
    have same := of_decide_eq_true named
    generalize policy.deckClass = deckClass at same
    cases deckClass
    cases same
    rfl
  have fragment : Drawing.fragment policy (.ofRecord talkDeck) slides =
      Drawing.fragment .keyed (.ofRecord talkDeck) slides := by
    rw [Drawing.fragment, Drawing.fragment, classes]
    rfl
  refine ⟨slides, ?_, hasHalf_talkFragment plain, eq_of_beq color⟩
  rw [renderAs, Trace.outcome_bind, policyFor, Trace.outcome_quiet, eq_ok_of_toOption chosen]
  change ((Drawing.render policy (.obj talkDeck)).mapError Failure.number).outcome = _
  rw [Trace.outcome_mapError, Drawing.outcome_render, document, fragment]
  rfl

theorem answers_talkPage (query : String) (choice : Choice) (blue : Bool)
    (asks : talk.Asks (talkPage query) .sampleHtml "talk" choice)
    (drawn : drawsTalk { choice with lookup := choice.lookup <|> conventionOf talkDeck } blue =
      true) : ∃ slides, talk.Answers (talkPage query) (.html (talkFragment slides)) ∧
      decide (Blue slides) = blue := by
  obtain ⟨slides, rendered, whole, color⟩ := rendered_talk _ _ drawn
  exact ⟨slides, asks.sampleHtml_iff.mpr ⟨talkDeck, _, stored_talk, rendered, whole, rfl⟩, color⟩

theorem posts_talkOrder : talk.Posts (talkOrder "/api/v1/render") .render ∧
    talk.Posts (talkOrder "/api/v1/render/html") .renderHtml := by
  decide +kernel

theorem asks_talk : talk.Asks talkSample .sample "talk" {} ∧
    talk.Asks (talkPage "token_resolution=yes") .sampleHtml "talk" { tokens := some true } := by
  decide +kernel

theorem header_talkOrder : (talkOrder "/api/v1/render").header? "content-type" =
    (talkOrder "/api/v1/render/html").header? "content-type" := by
  decide +kernel

theorem answers_talkSample : talk.Answers talkSample (.json (.obj talkDeck)) :=
  asks_talk.1.sample_iff.mpr ⟨_, _, stored_talk, faithful_talk _ stored_talk, rfl⟩

theorem answers_talkOrder : ∃ slides,
    talk.Answers (talkOrder "/api/v1/render") (.json (rendered (talkFragment slides))) ∧
      talk.Answers (talkOrder "/api/v1/render/html") (.html (talkFragment slides)) ∧
      decide (Blue slides) = true := by
  obtain ⟨slides, made, whole, blue⟩ := rendered_talk talkAsked.choice true (by decide +kernel)
  have taken := Order.ofRequest_of_carries carries_talkOrder
  have drawn : (renderOrder talk.settings talkAsked).outcome = .ok (talkFragment slides) :=
    (outcome_renderOrder talk.settings talkAsked).trans made
  have body : (talkOrder "/api/v1/render").body = (talkOrder "/api/v1/render/html").body := rfl
  have same := (Order.ofRequest_congr body header_talkOrder).trans taken
  exact ⟨slides, posts_talkOrder.1.render_iff.mpr ⟨_, _, same, drawn, whole, rfl⟩,
    posts_talkOrder.2.renderHtml_iff.mpr ⟨_, _, taken, drawn, whole, rfl⟩, blue⟩

theorem talkFragment_ne {slides others : List Markup} (blue : decide (Blue slides) = true)
    (colored : decide (Blue others) = false) : talkFragment others ≠ talkFragment slides := by
  intro same
  have chars := Drawing.childrenChars_of_render same
  simp only [Blue, chars] at colored blue
  cases colored.symm.trans blue

/-- The convention of the deck is chosen for its page and given with the order. With the other
convention, and with literal colours, the page is another one. -/
theorem endpoints_agree_talk :
    ∃ html mapped literal,
      talk.Answers (talkOrder "/api/v1/render")
        (.json (.obj [("html", .str html), ("empty", .bool (html = ""))])) ∧
      talk.Answers (talkOrder "/api/v1/render/html") (.html html) ∧
      talk.Answers (talkPage "token_resolution=yes") (.html html) ∧ html ≠ "" ∧
      talk.Answers (talkPage "layout_lookup=map&token_resolution=yes") (.html mapped) ∧
      mapped ≠ html ∧
      talk.Answers (talkPage "token_resolution=no") (.html literal) ∧ literal ≠ html := by
  obtain ⟨toRender, toHtml⟩ := posts_talkOrder
  obtain ⟨asksSample, asksPage⟩ := asks_talk
  obtain ⟨slides, render, renderHtml, blue⟩ := answers_talkOrder
  obtain ⟨shown, page, -⟩ := answers_talkPage _ _ true asksPage (by decide +kernel)
  obtain ⟨mapped, mappedPage, absent⟩ := answers_talkPage "layout_lookup=map&token_resolution=yes"
    { lookup := some .map, tokens := some true } false (by decide +kernel) (by decide +kernel)
  obtain ⟨literal, literalPage, red⟩ := answers_talkPage "token_resolution=no"
    { tokens := some false } false (by decide +kernel) (by decide +kernel)
  obtain ⟨html, sent, own⟩ := (endpoints_agree talk).1 (talkOrder "/api/v1/render")
    (talkOrder "/api/v1/render/html") _ _ rfl header_talkOrder toRender toHtml render renderHtml
  obtain ⟨again, own', ordered⟩ := (endpoints_agree talk).2 talkSample
    (talkPage "token_resolution=yes") (talkOrder "/api/v1/render/html") "talk" talkDeck none
    (some true) _ _ faithful_talk asksSample answers_talkSample asksPage page toHtml
    carries_talkOrder renderHtml
  have same : talkFragment slides = html := Body.html.inj own
  rw [sent] at render
  rw [own] at renderHtml
  rw [own', ← Body.html.inj (own.symm.trans ordered)] at page
  refine ⟨html, talkFragment mapped, talkFragment literal, render, renderHtml, page, ?_, mappedPage,
    ?_, literalPage, ?_⟩
  · rw [← same]
    exact Drawing.fragment_filled _ _ slides
  · rw [← same]
    exact talkFragment_ne blue absent
  · rw [← same]
    exact talkFragment_ne blue red

end App

end DeckPress.Service
