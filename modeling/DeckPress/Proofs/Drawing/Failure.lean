import DeckPress.Proofs.Drawing.Measures
import DeckPress.Proofs.Drawing.Outcome

/-!
When drawing fails. The one cause is a whole number beyond the range of doubles, and it matters in
two kinds of places: as the height of a shape of a slide that is drawn, and as a measure of an
outline. Everything else that is wrong with a document is passed over.
-/

namespace DeckPress

namespace Drawing

/-- What keeps an outline from being drawn. The width of a stroke is read only in a family that is
known and when the stroke has a colour. -/
inductive OutlineFails (tokens : Tokens) (s : Shape) (family : String) : Prop
  | measure (a : Option Amount) (member : a ∈ measuresOf s) (large : Amount.Oversized a)
  | stroke (known : (Family.ofName? family).isSome)
      (colored : isNone (strokeColor tokens s) = false) (large : Amount.Oversized s.strokeWidth)

theorem returns_strokeAttributes {tokens : Tokens} {s : Shape} :
    Returns (strokeAttributes tokens s) ↔
      ¬ (isNone (strokeColor tokens s) = false ∧ Amount.Oversized s.strokeWidth) := by
  have drawn : Returns (drawsStroke tokens s) ↔
      ¬ (isNone (strokeColor tokens s) = false ∧ Amount.Oversized s.strokeWidth) := by
    unfold drawsStroke
    cases isNone (strokeColor tokens s) with
    | true => exact iff_of_true (returns_ok false) (by simp)
    | false =>
      refine (returns_last fun width => returns_ok _).trans (returns_amountOr.trans ?_)
      simp
  exact (returns_last fun drawn => returns_ok _).trans drawn

theorem returns_svg?_steps {tokens : Tokens} {ratio : Float} {s : Shape} {family : String} :
    Returns (svg? tokens ratio s family) ↔
      ¬ Amount.Oversized s.w ∧ ¬ Amount.Oversized s.h ∧
      (¬ Amount.Oversized s.margin ∧ ¬ Amount.Oversized s.curvature ∧
        ¬ Amount.Oversized s.tipSize ∧ ¬ Amount.Oversized s.stemSize) ∧
      ((Family.ofName? family).isSome →
        ¬ (isNone (strokeColor tokens s) = false ∧ Amount.Oversized s.strokeWidth)) := by
  apply returns_amountOr_then
  intro w
  apply returns_amountOr_then
  intro h
  refine (returns_then ?_).trans (and_congr_left' returns_measures)
  intro p
  cases Family.ofName? family with
  | none => exact iff_of_true (returns_ok none) nofun
  | some known =>
    refine (returns_last fun stroke => returns_ok _).trans (returns_strokeAttributes.trans ?_)
    simp

theorem returns_svg? {tokens : Tokens} {ratio : Float} {s : Shape} {family : String} :
    Returns (svg? tokens ratio s family) ↔ ¬ OutlineFails tokens s family := by
  rw [returns_svg?_steps]
  constructor
  · rintro ⟨w, h, ⟨margin, curvature, tip, stem⟩, stroke⟩
      (⟨a, member, large⟩ | ⟨known, colored, large⟩)
    · simp only [measuresOf, List.mem_cons, List.not_mem_nil, or_false] at member
      rcases member with rfl | rfl | rfl | rfl | rfl | rfl <;> contradiction
    · exact stroke known ⟨colored, large⟩
  · intro fine
    have measure (a : Option Amount) (member : a ∈ measuresOf s) : ¬ Amount.Oversized a :=
      fun large => fine (.measure a member large)
    have stroke (known : (Family.ofName? family).isSome) :
        ¬ (isNone (strokeColor tokens s) = false ∧ Amount.Oversized s.strokeWidth) := by
      rintro ⟨colored, large⟩
      exact fine (.stroke known colored large)
    refine ⟨measure _ ?_, measure _ ?_, ⟨measure _ ?_, measure _ ?_, measure _ ?_, measure _ ?_⟩,
      stroke⟩
    all_goals simp [measuresOf]

/-! ## Shapes -/

/-- What keeps a shape from being drawn: it is read as a vector shape with an outline that fails. -/
def ShapeFails (policy : RenderPolicy) (tokens : Tokens) (record : Json) : Prop :=
  ∃ s family, Shape.read record = .ok s ∧ classify policy s = some (.vector family) ∧
    OutlineFails tokens s family

theorem returns_vector? {c : Context} {id : String} {s : Shape} {family : String} :
    Returns (vector? c id s family) ↔ ¬ OutlineFails c.tokens s family :=
  (returns_last fun _ => returns_ok _).trans returns_svg?

theorem returns_shape? {c : Context} {id : String} {record : Json} :
    Returns (shape? c id record).outcome ↔ ¬ ShapeFails c.policy c.tokens record := by
  rw [outcome_shape?]
  unfold ShapeFails
  cases Shape.read record with
  | error refusal => exact iff_of_true (returns_ok none) (by simp)
  | ok s =>
    dsimp only
    cases kind : classify c.policy s with
    | none => exact iff_of_true (returns_ok none) (by simp [kind])
    | some known =>
      cases known with
      | vector family => simpa [kind] using returns_vector?
      | _ => exact iff_of_true (returns_ok _) (by simp [kind])

/-! ## Slides -/

/-- What keeps the shapes of a slide from being drawn. The heights are those of the merged records,
whether or not these can be read as shapes. -/
def ShapesFail (policy : RenderPolicy) (tokens : Tokens) (shapes : Shapes) : Prop :=
  ∃ entry ∈ shapes, Cascade.HeightFails entry.2 ∨ ShapeFails policy tokens (.obj entry.2)

theorem returns_drawShapes {c : Context} {shapes : Shapes} :
    Returns (drawShapes c shapes).outcome ↔
      ∀ entry ∈ shapes, ¬ ShapeFails c.policy c.tokens (.obj entry.2) := by
  rw [outcome_drawShapes]
  refine (returns_last fun drawn => returns_ok _).trans (returns_mapM.trans ?_)
  exact forall₂_congr fun entry _ => returns_shape?

theorem returns_backgroundLayer {declarations : Declarations} {shapes : Shapes}
    (fine : ∀ entry ∈ shapes, ¬ Cascade.HeightFails entry.2) :
    Returns (backgroundLayer declarations shapes) := by
  unfold backgroundLayer
  cases declarations.isEmpty with
  | true => exact returns_ok []
  | false => exact (returns_last fun z => returns_ok _).mpr (Cascade.returns_backgroundZ fine)

theorem returns_backgroundDeclarations {slide : Slide} {background : Record Json} :
    Returns (backgroundDeclarations slide background : Trace NumberError Declarations).outcome := by
  rw [outcome_backgroundDeclarations]
  cases Background.read (.obj background) with
  | error refusal => exact returns_ok []
  | ok background => exact returns_ok _

theorem returns_drawSlide {policy : RenderPolicy} {tokens : Tokens} {deck : Deck}
    {found : Resolved} {slide : Slide} :
    Returns (drawSlide policy tokens deck found slide).outcome ↔
      ¬ ShapesFail policy tokens (shapesOf deck found slide) := by
  rw [outcome_drawSlide]
  constructor
  · rintro done ⟨entry, member, fails⟩
    obtain ⟨ordered, sorted, rest⟩ := returns_bind.mp done
    obtain ⟨drawn, walk, -⟩ := returns_bind.mp rest
    -- Shapes are drawn in another order, but they are the same shapes.
    rcases fails with height | shape
    · exact Cascade.returns_sortByZ.mp ⟨ordered, sorted⟩ entry member height
    · have kept := (Cascade.sortByZ_perm sorted).mem_iff.mpr member
      exact returns_drawShapes.mp ⟨drawn, walk⟩ entry kept shape
  · intro fine
    have heights (entry) (member : entry ∈ shapesOf deck found slide) :
        ¬ Cascade.HeightFails entry.2 := fun fails => fine ⟨entry, member, .inl fails⟩
    have shapes (entry) (member : entry ∈ shapesOf deck found slide) :
        ¬ ShapeFails policy tokens (.obj entry.2) := fun fails => fine ⟨entry, member, .inr fails⟩
    obtain ⟨ordered, sorted⟩ := Cascade.returns_sortByZ.mpr heights
    have same (entry) : entry ∈ ordered ↔ entry ∈ shapesOf deck found slide :=
      (Cascade.sortByZ_perm sorted).mem_iff
    obtain ⟨drawn, walk⟩ :=
      (returns_drawShapes (c := { policy, tokens, values := slide.values })).mpr
        fun entry member => shapes entry ((same entry).mp member)
    obtain ⟨declarations, read⟩ := returns_backgroundDeclarations
    refine returns_bind.mpr ⟨ordered, sorted, returns_bind.mpr ⟨drawn, walk, returns_bind.mpr ?_⟩⟩
    refine ⟨declarations, read, ?_⟩
    cases policy.backgroundMode with
    | inline => exact returns_ok _
    | layer =>
      refine (returns_last fun layer => returns_ok _).mpr (returns_backgroundLayer ?_)
      exact fun entry member => heights entry ((same entry).mp member)

/-- What keeps a slide from being drawn. It is read and has a layout: one that is passed over
fails in nothing. -/
def SlideFails (policy : RenderPolicy) (deck : Deck) (raw : Json) : Prop :=
  ∃ slide found, Slide.read raw = .ok slide ∧
    lookUp policy.layoutLookup slide deck = .ok (some found) ∧
    ShapesFail policy (tokensOf policy deck) (shapesOf deck found slide)

theorem returns_slide? {policy : RenderPolicy} {deck : Deck} {raw : Json} :
    Returns (slide? policy (tokensOf policy deck) deck raw).outcome ↔
      ¬ SlideFails policy deck raw := by
  rw [outcome_slide?]
  unfold SlideFails
  cases Slide.read raw with
  | error refusal => exact iff_of_true (returns_ok none) (by simp)
  | ok slide =>
    dsimp only
    cases resolved : lookUp policy.layoutLookup slide deck with
    | error refusal => exact iff_of_true (returns_ok none) (by simp [resolved])
    | ok layout =>
      cases layout with
      | none => exact iff_of_true (returns_ok none) (by simp [resolved])
      | some found =>
        refine (returns_last fun drawn => returns_ok _).trans (returns_drawSlide.trans ?_)
        simp [resolved]

/-! ## Decks -/

/-- What keeps a deck from being drawn. Its version is supported or goes unchecked. -/
def DeckFails (policy : RenderPolicy) (deck : Deck) : Prop :=
  ∃ slides, deck.slides = some slides ∧ (policy.checkVersion && !supported deck.version) = false ∧
    ∃ raw ∈ slides, SlideFails policy deck raw

theorem returns_drawSlides {policy : RenderPolicy} {deck : Deck} {slides : List Json} :
    Returns (drawSlides policy deck slides).outcome ↔
      ∀ raw ∈ slides, ¬ SlideFails policy deck raw := by
  rw [outcome_drawSlides]
  refine (returns_last fun drawn => returns_ok _).trans (returns_mapM.trans ?_)
  exact forall₂_congr fun raw _ => returns_slide?

theorem returns_deck? {policy : RenderPolicy} {deck : Deck} :
    Returns (deck? policy deck).outcome ↔ ¬ DeckFails policy deck := by
  rw [outcome_deck?]
  unfold DeckFails
  cases deck.slides with
  | none => exact iff_of_true (returns_ok none) (by simp)
  | some slides =>
    dsimp only
    cases policy.checkVersion && !supported deck.version with
    | true => exact iff_of_true (returns_ok none) (by simp)
    | false =>
      rw [if_neg Bool.false_ne_true]
      refine (returns_last fun drawn => returns_ok _).trans (returns_drawSlides.trans ?_)
      simp

/-- What keeps a document from being rendered: as much of it as can be read is a deck that
fails. -/
def RenderFails (policy : RenderPolicy) (document : Json) : Prop :=
  ∃ deck, (Deck.readLeniently document : Trace NumberError _).outcome = .ok (some deck) ∧
    DeckFails policy deck

theorem returns_document? {policy : RenderPolicy} {document : Json} :
    Returns (document? policy document).outcome ↔ ¬ RenderFails policy document := by
  obtain ⟨read, reads⟩ := outcome_readLeniently (ε := NumberError) document
  rw [outcome_document?]
  unfold RenderFails
  rw [reads]
  cases read with
  | none => exact iff_of_true (returns_ok none) (by simp)
  | some deck =>
    refine returns_deck?.trans ?_
    simp

/-- A document is rendered exactly when no whole number out of range is where it is used. -/
theorem render_returns_iff (policy : RenderPolicy) (document : Json) :
    (∃ html, (render policy document).outcome = .ok html) ↔ ¬ RenderFails policy document := by
  rw [outcome_render]
  exact (returns_last fun drawn => returns_ok _).trans returns_document?

/-! A slide lifts a title of its layout beyond the range of doubles. -/

def beyondDoubles : Int :=
  Int.ofNat (Decimal.tenTo 400)

def liftedTitle : Record Json :=
  [("type", .str "text"), ("text", .str "Hi"), ("z", .int beyondDoubles)]

def liftedLayout : Record Json :=
  [("shapes", .obj [("title", .obj [("type", .str "text"), ("text", .str "Hi")])])]

def liftedSlide : Record Json :=
  [("layout", .str "plain"), ("shapes", .obj [("title", .obj [("z", .int beyondDoubles)])])]

def liftedDeck : Record Json :=
  [("layouts", .obj [("plain", .obj liftedLayout)]), ("slides", .arr [.obj liftedSlide])]

theorem render_lifted_fails : ¬ ∃ html, (render .keyed (.obj liftedDeck)).outcome = .ok html := by
  have large : Decimal.integerBound ≤ beyondDoubles.natAbs := by decide +kernel
  have height : Cascade.HeightFails liftedTitle := ⟨.int beyondDoubles, rfl, _, rfl, large⟩
  have member : ("title", liftedTitle) ∈
      shapesOf (Deck.ofRecord liftedDeck) ⟨none, Layout.ofRecord liftedLayout⟩
        (Slide.ofRecord liftedSlide) := List.mem_singleton.mpr rfl
  have slide : SlideFails .keyed (Deck.ofRecord liftedDeck) (.obj liftedSlide) :=
    ⟨Slide.ofRecord liftedSlide, ⟨none, Layout.ofRecord liftedLayout⟩, rfl, rfl,
      ("title", liftedTitle), member, .inl height⟩
  have document : RenderFails .keyed (.obj liftedDeck) :=
    ⟨Deck.ofRecord liftedDeck, rfl, [.obj liftedSlide], rfl, rfl, .obj liftedSlide,
      List.mem_singleton.mpr rfl, slide⟩
  rw [outcome_render]
  intro rendered
  obtain ⟨drawn, done, -⟩ := returns_bind.mp rendered
  exact returns_document?.mp ⟨drawn, done⟩ document

end Drawing

end DeckPress
