import DeckPress.Proofs.Trace
import DeckPress.Service.App

/-!
What an answer tells. An endpoint answers with status 200 exactly when it has read its request,
found the deck when it was to look for one, and drawn what can be sent; one equivalence for each
endpoint says so. The log and the names that it gives to responses change neither status nor body.
-/

namespace DeckPress.Service

/-- A computation comes to a response with status 200 and a body. -/
def Sends (x : Trace Failure Response) (body : Body) : Prop :=
  ∃ response, x.outcome = .ok response ∧ response.status = 200 ∧ response.body = body

section Steps

variable {α : Type} {body : Body}

theorem sends_ok {x : Trace Failure Response} {sent : Body} (done : x.outcome = .ok (.ok sent)) :
    Sends x body ↔ body = sent := by
  constructor
  · rintro ⟨response, answered, -, rfl⟩
    cases done.symm.trans answered
    rfl
  · rintro rfl
    exact ⟨_, done, rfl, rfl⟩

theorem not_sends_error {x : Trace Failure Response} {failure : Failure}
    (failed : x.outcome = .error failure) : ¬ Sends x body := by
  rintro ⟨response, answered, -⟩
  cases failed.symm.trans answered

theorem not_sends_of_status {x : Trace Failure Response} {response : Response}
    (done : x.outcome = .ok response) (other : response.status ≠ 200) : ¬ Sends x body := by
  rintro ⟨response', answered, ok, -⟩
  cases done.symm.trans answered
  exact other ok

theorem sends_bind {x : Trace Failure α} {next : α → Trace Failure Response} :
    Sends (x >>= next) body ↔ ∃ a, x.outcome = .ok a ∧ Sends (next a) body := by
  unfold Sends
  rw [Trace.outcome_bind]
  cases x.outcome with
  | error failure => simp [Except.bind]
  | ok a => simp [Except.bind]

theorem sends_unlessRejected {read : Except Rejection α} {next : α → Trace Failure Response} :
    Sends (unlessRejected read next) body ↔ ∃ a, read = .ok a ∧ Sends (next a) body := by
  cases read with
  | ok a => simp [unlessRejected]
  | error rejection =>
    refine iff_of_false ?_ (by simp)
    cases rejection with
    | unreadable => exact not_sends_of_status rfl (by decide)
    | faults faults =>
      simp only [unlessRejected, refuse]
      split
      · exact not_sends_error rfl
      · split
        · exact not_sends_error rfl
        · exact not_sends_of_status rfl (show 422 ≠ 200 by decide)

theorem sends_withSample {store : Library.Store} {name : String}
    {next : Record Json → Trace Failure Response} : Sends (withSample store name next) body ↔
      ∃ deck, (store.get? name).outcome = .ok (some deck) ∧ Sends (next deck) body := by
  rw [withSample, sends_bind, Trace.outcome_mapError]
  cases (store.get? name).outcome with
  | error cause => simp [Except.mapError]
  | ok found =>
    cases found with
    | none =>
      refine iff_of_false ?_ (by simp)
      rintro ⟨_, same, sends⟩
      cases same
      exact not_sends_of_status rfl (show 404 ≠ 200 by decide) sends
    | some deck => simp [Except.mapError]

theorem sends_sendHtml {html : String} :
    Sends (sendHtml html) body ↔ Text.hasHalf html = false ∧ body = .html html := by
  unfold sendHtml
  cases Text.hasHalf html with
  | true => exact iff_of_false (not_sends_error rfl) (by simp)
  | false => exact (sends_ok rfl).trans (by simp)

theorem sends_serve {document : Json} : Sends (serve document) body ↔
    ∃ served, document.served? = some served ∧ body = .json served := by
  unfold serve
  cases document.served? with
  | none => exact iff_of_false (not_sends_error rfl) (by simp)
  | some served => exact (sends_ok rfl).trans (by simp)

end Steps

theorem outcome_renderOrder (settings : Settings) (order : Order) :
    (renderOrder settings order).outcome =
      (renderAs settings order.choice ((order.deck.map Json.obj).getD .null)).outcome := by
  unfold renderOrder
  rw [Trace.outcome_bind]
  cases (renderAs settings order.choice ((order.deck.map Json.obj).getD .null)).outcome with
  | error failure => rfl
  | ok html =>
    by_cases empty : html = ""
    · subst empty
      rfl
    · change (if html = "" then _ else _ : Trace Failure String).outcome = _
      rw [if_neg empty]
      rfl

def rendered (html : String) : Json :=
  .obj [("html", .str html), ("empty", .bool (html = ""))]

theorem served?_rendered (html : String) : (rendered html).served? =
    if Text.hasHalf html then none else some (rendered html) := by
  have names : Text.withoutHalves "html" = "html" ∧ Text.withoutHalves "empty" = "empty" := by
    decide
  simp only [rendered, Json.served?, Json.servedDepth, Json.servedIn?, List.mapM_cons,
    List.mapM_nil, names]
  split <;> rfl

theorem sends_rendered {html : String} {body : Body} : Sends (serve (rendered html)) body ↔
    Text.hasHalf html = false ∧ body = .json (rendered html) := by
  rw [sends_serve, served?_rendered]
  cases Text.hasHalf html <;> simp

/-! ## Endpoints -/

variable {settings : Settings} {store : Library.Store} {occasion : Occasion} {request : Request}
  {values : Record Json} {body : Body}

theorem sends_render : Sends (answer settings store occasion request values .render) body ↔
    ∃ order html, Order.ofRequest request = .ok order ∧
      (renderOrder settings order).outcome = .ok html ∧ Text.hasHalf html = false ∧
      body = .json (rendered html) := by
  simp only [answer, sends_unlessRejected, sends_bind]
  change (∃ order, _ ∧ ∃ html, _ ∧ Sends (serve (rendered html)) body) ↔ _
  simp only [sends_rendered, exists_and_left]

theorem sends_renderHtml : Sends (answer settings store occasion request values .renderHtml) body ↔
    ∃ order html, Order.ofRequest request = .ok order ∧
      (renderOrder settings order).outcome = .ok html ∧ Text.hasHalf html = false ∧
      body = .html html := by
  simp only [answer, sends_unlessRejected, sends_bind, sends_sendHtml, exists_and_left]

theorem sends_sample : Sends (answer settings store occasion request values .sample) body ↔
    ∃ inquiry deck served,
      Parameters.inquiry ⟨settings.mount ++ samplePath, values, request⟩ false = .ok inquiry ∧
      (store.get? inquiry.name).outcome = .ok (some deck) ∧ (Json.obj deck).served? = some served ∧
      body = .json served := by
  simp only [answer, sends_unlessRejected, sends_withSample, sends_serve, exists_and_left]

theorem sends_sampleHtml :
    Sends (answer settings store occasion request values .sampleHtml) body ↔
    ∃ inquiry deck html,
      Parameters.inquiry ⟨settings.mount ++ samplePath ++ "/html", values, request⟩ true =
        .ok inquiry ∧
      (store.get? inquiry.name).outcome = .ok (some deck) ∧
      (renderSample settings inquiry.choice deck).outcome = .ok html ∧
      Text.hasHalf html = false ∧ body = .html html := by
  simp only [answer, sends_unlessRejected, sends_withSample, sends_bind, sends_sendHtml,
    exists_and_left]

/-! ## Requests -/

/-- The log gives a response a name, and changes nothing else. -/
theorem App.exchange_logged (path : String) (answered : Trace Failure Response) :
    (exchange (logged occasion request path answered)).response.status =
        (exchange answered).response.status ∧
      (exchange (logged occasion request path answered)).response.body =
        (exchange answered).response.body := by
  unfold exchange logged
  cases answered.outcome <;> exact ⟨rfl, rfl⟩

theorem App.handle_response {app : App} (occasion : Occasion)
    (direct : app.preflight? request = none) :
    (app.handle occasion request).response.status =
        (exchange (app.route occasion request)).response.status ∧
      (app.handle occasion request).response.body =
        (exchange (app.route occasion request)).response.body := by
  simp only [handle, direct]
  split
  · exact exchange_logged _ _
  · exact ⟨rfl, rfl⟩

instance : Nonempty Occasion :=
  ⟨⟨"", "", ""⟩⟩

def App.Answers (app : App) (request : Request) (body : Body) : Prop :=
  ∃ occasion, (app.handle occasion request).response.status = 200 ∧
    (app.handle occasion request).response.body = body

theorem App.answers_iff {app : App} {endpoint : Endpoint} (method : request.method ≠ "OPTIONS")
    (passed : Route.pass (rules app.settings) request.method request.decodedPath =
      .ok (.taken endpoint values)) : app.Answers request body ↔
    ∃ occasion, Sends (answer app.settings app.store occasion request values endpoint) body := by
  refine exists_congr fun occasion => ?_
  have direct : app.preflight? request = none := by
    simp [App.preflight?, method]
  have routed : (app.route occasion request).outcome =
      (Service.answer app.settings app.store occasion request values endpoint).outcome := by
    simp only [App.route, Trace.outcome_bind, passed]
    rfl
  obtain ⟨status, content⟩ := App.handle_response occasion direct
  rw [status, content, App.exchange, Sends, ← routed]
  cases (app.route occasion request).outcome with
  | error failure => exact iff_of_false (fun ok => by cases ok.1) (by simp)
  | ok response => simp

end DeckPress.Service
