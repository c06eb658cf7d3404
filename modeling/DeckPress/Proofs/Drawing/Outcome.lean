import DeckPress.Drawing.Deck
import DeckPress.Proofs.Entity.Lenient
import DeckPress.Proofs.Trace

/-!
What drawing comes to, without the messages that it writes. One equation for each function, in
which what is passed over and what can fail are to be seen.
-/

namespace DeckPress.Drawing

theorem outcome_shape? (c : Context) (id : String) (record : Json) :
    (shape? c id record).outcome =
      match Shape.read record with
      | .error _ => .ok none
      | .ok s =>
        match classify c.policy s with
        | none => .ok none
        | some .text => .ok (some (text c id s))
        | some .image => .ok (some (image id s))
        | some .list => .ok (some (list c id s))
        | some (.vector family) => vector? c id s family := by
  unfold shape?
  cases Shape.read record with
  | error refusal => rfl
  | ok s =>
    dsimp only
    cases classify c.policy s with
    | none => rfl
    | some kind =>
      cases kind with
      | vector family =>
        simp only [Trace.outcome_bind, Trace.outcome_quiet]
        cases vector? c id s family with
        | error e => rfl
        | ok found => cases found <;> rfl
      | _ => rfl

theorem outcome_drawShapes (c : Context) (shapes : Shapes) :
    (drawShapes c shapes).outcome = do
      let drawn ← shapes.mapM fun entry => (shape? c entry.1 (.obj entry.2)).outcome
      return drawn.filterMap fun found => found := by
  unfold drawShapes
  rw [Trace.outcome_bind, Trace.outcome_mapM]
  rfl

/-- A background has declarations in any case. -/
theorem outcome_backgroundDeclarations {ε : Type} (slide : Slide) (background : Record Json) :
    (backgroundDeclarations slide background : Trace ε Declarations).outcome =
      match Background.read (.obj background) with
      | .ok background => .ok (Style.background background)
      | .error _ => .ok [] := by
  unfold backgroundDeclarations
  cases Background.read (.obj background) <;> rfl

theorem outcome_drawSlide (policy : RenderPolicy) (tokens : Tokens) (deck : Deck)
    (found : Resolved) (slide : Slide) :
    (drawSlide policy tokens deck found slide).outcome = do
      let ordered ← Cascade.sortByZ (shapesOf deck found slide)
      let drawn ← (drawShapes { policy, tokens, values := slide.values } ordered).outcome
      let declarations ← (backgroundDeclarations slide (backgroundOf deck found slide)).outcome
      let id : Attribute := ⟨.slideId, slide.id.getD ""⟩
      match policy.backgroundMode with
      | .layer => do
        let layer ← backgroundLayer declarations ordered
        return Markup.division "slide" [id] (layer ++ drawn)
      | .inline => return Markup.division "slide" [id, declarations.attribute] drawn := by
  unfold drawSlide
  simp only [Trace.outcome_bind, Trace.outcome_reportAll, Trace.outcome_quiet]
  cases policy.backgroundMode with
  | inline => rfl
  | layer =>
    simp only [Trace.outcome_bind, Trace.outcome_quiet]
    rfl

theorem outcome_slide? (policy : RenderPolicy) (tokens : Tokens) (deck : Deck) (raw : Json) :
    (slide? policy tokens deck raw).outcome =
      match Slide.read raw with
      | .error _ => .ok none
      | .ok slide =>
        match lookUp policy.layoutLookup slide deck with
        | .ok (some found) => do
          return some (← (drawSlide policy tokens deck found slide).outcome)
        | _ => .ok none := by
  unfold slide?
  cases Slide.read raw with
  | error refusal => rfl
  | ok slide =>
    dsimp only
    unfold resolveLayout
    cases lookUp policy.layoutLookup slide deck with
    | error refusal => rfl
    | ok resolved =>
      cases resolved with
      | none => rfl
      | some found =>
        change (do return some (← drawSlide policy tokens deck found slide) :
          Trace NumberError (Option Markup)).outcome = _
        rw [Trace.outcome_bind]
        rfl

theorem outcome_drawSlides (policy : RenderPolicy) (deck : Deck) (slides : List Json) :
    (drawSlides policy deck slides).outcome = do
      let drawn ← slides.mapM fun raw => (slide? policy (tokensOf policy deck) deck raw).outcome
      return drawn.filterMap fun found => found := by
  unfold drawSlides
  rw [Trace.outcome_bind, Trace.outcome_mapM]
  rfl

theorem outcome_deck? (policy : RenderPolicy) (deck : Deck) :
    (deck? policy deck).outcome =
      match deck.slides with
      | none => .ok none
      | some slides =>
        if policy.checkVersion && !supported deck.version then .ok none
        else do return some (fragment policy deck (← (drawSlides policy deck slides).outcome)) := by
  unfold deck?
  cases deck.slides with
  | none => rfl
  | some slides =>
    dsimp only
    split
    · rfl
    · rw [Trace.outcome_bind]
      rfl

theorem outcome_readLeniently {ε : Type} (document : Json) :
    ∃ read, (Deck.readLeniently document : Trace ε (Option Deck)).outcome = .ok read :=
  ⟨Deck.reading? document, Deck.outcome_readLeniently_eq document⟩

theorem outcome_document? (policy : RenderPolicy) (document : Json) :
    (document? policy document).outcome =
      (Deck.readLeniently document).outcome >>= fun read =>
        match read with
        | none => .ok none
        | some deck => (deck? policy deck).outcome := by
  unfold document?
  rw [Trace.outcome_bind]
  obtain ⟨read, reads⟩ := outcome_readLeniently (ε := NumberError) document
  rw [reads]
  cases read <;> rfl

theorem outcome_render (policy : RenderPolicy) (document : Json) :
    (render policy document).outcome = do
      return fragmentText (← (document? policy document).outcome) := by
  unfold render
  rw [Trace.outcome_bind]
  rfl

end DeckPress.Drawing
