import Mathlib.Logic.Relation
import DeckPress.Proofs.Drawing.Alike
import DeckPress.Proofs.Drawing.Edited
import DeckPress.Proofs.Drawing.Emptiness

/-!
What does not matter for a result: the order of names, names that no entity knows, and nulls where
they count as absent. One edit of this kind leaves the plans of a deck alike, and so any number of
them leaves its rendering as it is. There is one exception, a name that holds half a pair: the
entity in which it stands cannot be read.
-/

namespace DeckPress.Drawing

open Record Cascade

/-! ## Records that are the same in what counts -/

theorem read_same {α : Type} {part : Part} {fields : List Field} {make : Record Json → α}
    {r s : Record Json} (same : SameRecords part.Counts r s)
    (declared : part.known = some (Field.spelled fields))
    (made : ∀ r s : Record Json, (∀ spellings, (∀ name ∈ spellings, name ∈ Field.spelled fields) →
      r.pick? spellings = s.pick? spellings) → make r = make s) :
    readEntity fields make (.obj r) = readEntity fields make (.obj s) := by
  have counted : ∀ name ∈ Field.spelled fields, part.Counts name := by
    intro name listed
    unfold Part.Counts
    rw [declared]
    exact Or.inl listed
  have agrees : Agrees (fun _ => Eq) part.Counts (withoutNulls r) (withoutNulls s) := by
    intro name counts
    have given : Json.given? r name = Json.given? s name := by
      unfold Json.given?
      rw [same.values name counts]
    rw [get?_withoutNulls same.left, get?_withoutNulls same.right, given]
    cases Json.given? s name with
    | none => exact .none
    | some value => exact .some rfl
  have picked : ∀ spellings, (∀ name ∈ spellings, name ∈ Field.spelled fields) →
      (withoutNulls r).pick? spellings = (withoutNulls s).pick? spellings := by
    intro spellings listed
    have here := agrees.pick? fun name member => counted name (listed name member)
    generalize (withoutNulls r).pick? spellings = left at here ⊢
    generalize (withoutNulls s).pick? spellings = right at here ⊢
    cases here with
    | none => rfl
    | some both => exact congrArg some (Prod.ext both.1 both.2.2)
  rcases agrees.readEntity make (fun _ => part.counts_half) counted
      (fun _ _ _ _ _ _ same => congrArg _ same) with ⟨refusal, left, right⟩ | ⟨left, right⟩
  · rw [left, right]
  · rw [left, right, made _ _ picked]

theorem shape_same {r s : Record Json} (same : SameRecords Part.shape.Counts r s) :
    Shape.read (.obj r) = Shape.read (.obj s) := by
  refine read_same same rfl fun r s picked => ?_
  have kept {α : Type} (reader : Reader α) (spellings : List String)
      (listed : ∀ name ∈ spellings, name ∈ Field.spelled Shape.fields) :
      r.value? reader spellings = s.value? reader spellings := by
    rw [value?, value?, picked spellings listed]
  unfold Shape.ofRecord
  dsimp only
  congr 1
  case e_items => exact congrArg (·.getD []) (kept Reader.list ["items"] (by decide))
  all_goals exact kept _ _ (by decide)

theorem background_same {r s : Record Json} (same : SameRecords Part.background.Counts r s) :
    painted r = painted s := by
  have read : Background.read (.obj r) = Background.read (.obj s) := by
    refine read_same same rfl fun r s picked => ?_
    have kept {α : Type} (reader : Reader α) (spellings : List String)
        (listed : ∀ name ∈ spellings, name ∈ Field.spelled Background.fields) :
        r.value? reader spellings = s.value? reader spellings := by
      rw [value?, value?, picked spellings listed]
    unfold Background.ofRecord
    rw [kept _ ["fill"] (by decide), kept _ ["image"] (by decide), kept _ ["image_fit"] (by decide),
      kept _ ["inherit"] (by decide)]
  unfold painted
  rw [read]

theorem paired_same {xs ys : Shapes} (paired : Paired (SameRecords Part.shape.Counts) xs ys) :
    Paired AlikeRecords xs ys := by
  refine paired.imp fun a b here => ⟨here.1, ?_, shape_same here.2⟩
  exact here.2.values "z" (counts_shape (by decide))

/-! ## Plans -/

variable {allowed : String → Prop}

structure SameResolved (allowed : String → Prop) (a b : Resolved) : Prop where
  master : Option.Rel (SameMasters allowed) a.master b.master
  layout : SameLayouts a.layout b.layout

theorem resolved?_changed (whole : ∀ name, allowed name → Text.hasHalf name = false)
    {deck other : Deck} (decks : SameDecks allowed deck other) {a b : Slide}
    (slides : SameSlides a b) (lookup : LayoutLookup) :
    Option.Rel (SameResolved allowed) (resolved? lookup a deck) (resolved? lookup b other) := by
  have ids (v w : Json) (changed : Changed allowed (some .layout) v w) : idText? w = idText? v :=
    idText?_changed whole changed rfl (Or.inl (by decide)) rfl
  unfold resolved?
  rw [← slides.master, ← slides.layout]
  cases lookup with
  | masterList =>
    have own (v w : Json) (changed : Changed allowed (some .master) v w) : idText? w = idText? v :=
      idText?_changed whole changed rfl (Or.inl (by decide)) rfl
    refine related_bind (fun item item' changed => ?_)
      (related_findById own decks.masters a.master)
    refine related_bind (fun master master' same => ?_) (master_changed whole changed).toOption
    refine related_bind (fun item item' changed => ?_)
      (related_findById ids same.layouts a.layout)
    exact related_bind (fun _ _ layouts => .some ⟨.some same, layouts⟩)
      (layout_changed whole changed).toOption
  | map =>
    refine related_bind (fun item item' changed => ?_) (decks.layouts a.layout)
    exact related_bind (fun _ _ layouts => .some ⟨.none, layouts⟩)
      (layout_changed whole changed).toOption

section Plans

variable {deck other : Deck} {a b : Slide} {f g : Resolved}

theorem shapesOf_same (decks : SameDecks allowed deck other) (slides : SameSlides a b)
    (found : SameResolved allowed f g) :
    Paired (SameRecords Part.shape.Counts) (shapesOf deck f a) (shapesOf other g b) := by
  have masters : SameEntries Part.shape.Counts
      (contributed (scopeOf (f.master.bind (·.shapes))))
      (contributed (scopeOf (g.master.bind (·.shapes)))) := by
    have both := found.master
    generalize f.master = left at both ⊢
    generalize g.master = right at both ⊢
    cases both with
    | none => exact .nil
    | some same => exact same.shapes
  refine applyOverrides_same (mergeShapes_same ?_) slides.overrides
  simp only [scopes, List.flatMap_cons, List.flatMap_nil, List.append_nil]
  exact List.rel_append decks.shapes (List.rel_append masters
    (List.rel_append found.layout.shapes slides.shapes))

theorem layer_same {x y : Option (Record Json)}
    (same : Option.Rel (SameOn Part.background.Counts) x y) :
    SameOn Part.background.Counts (fieldsOf (Drawing.layerOf x))
      (fieldsOf (Drawing.layerOf y)) := by
  cases same with
  | none => exact .refl []
  | some tables => exact tables

theorem inherits_same (layouts : SameLayouts f.layout g.layout) :
    inherits f.layout = inherits g.layout := by
  have both := layouts.bg
  unfold inherits
  generalize f.layout.bg = left at both ⊢
  generalize g.layout.bg = right at both ⊢
  cases both with
  | none => rfl
  | some same =>
    rw [Option.bind_some, Option.bind_some, same.first "inherit" (Or.inl (by decide))]

theorem backgroundOf_same (decks : SameDecks allowed deck other) (slides : SameSlides a b)
    (found : SameResolved allowed f g) :
    SameRecords Part.background.Counts (backgroundOf deck f a) (backgroundOf other g b) := by
  have masters := found.master
  unfold backgroundOf
  rw [inherits_same found.layout]
  generalize f.master = left at masters ⊢
  generalize g.master = right at masters ⊢
  refine SameRecords.erase (overlayFields_same ?_) "inherit"
  refine .cons (layer_same decks.bg) (List.rel_append ?_
    (.cons (layer_same found.layout.bg) (.cons (layer_same slides.bg) .nil)))
  cases masters with
  | none => exact .nil
  | some same =>
    dsimp only
    split
    · exact .cons (layer_same same.bg) .nil
    · exact .nil

theorem ofSlide_same (decks : SameDecks allowed deck other) (slides : SameSlides a b)
    (found : SameResolved allowed f g) :
    AlikePlans (Plan.ofSlide deck a f) (Plan.ofSlide other b g) where
  id := congrArg (·.getD "") slides.id
  values := slides.values
  shapes := paired_same (shapesOf_same decks slides found)
  background := background_same (backgroundOf_same decks slides found)

end Plans

theorem plans?_changed (whole : ∀ name, allowed name → Text.hasHalf name = false)
    {deck other : Deck} (decks : SameDecks allowed deck other) (lookup : LayoutLookup) :
    Option.Rel (List.Forall₂ AlikePlans) (plans? lookup deck) (plans? lookup other) := by
  have plan (v w : Json) (changed : Changed allowed (some .slide) v w) :
      Option.Rel AlikePlans (plan? lookup deck v) (plan? lookup other w) := by
    have places : Option.Rel (fun p q => AlikePlans (Plan.ofSlide deck p.1 p.2)
        (Plan.ofSlide other q.1 q.2)) (located? lookup deck v) (located? lookup other w) := by
      rw [located?_eq, located?_eq]
      refine related_bind (fun a b slides => ?_) (slide_changed whole changed).toOption
      refine related_bind (fun f g found => ?_) (resolved?_changed whole decks slides lookup)
      exact .some (ofSlide_same decks slides found)
    unfold plan?
    generalize located? lookup deck v = left at places ⊢
    generalize located? lookup other w = right at places ⊢
    cases places with
    | none => exact .none
    | some alike => exact .some alike
  have slides := decks.slides
  unfold plans?
  generalize deck.slides = left at slides ⊢
  generalize other.slides = right at slides ⊢
  cases slides with
  | none => exact .none
  | some each => exact .some (List.rel_filterMap (fun _ _ changed => plan _ _ changed) each)

/-! ## Decks -/

theorem alikeDecks_same (whole : ∀ name, allowed name → Text.hasHalf name = false)
    (policy : RenderPolicy) {deck other : Deck} (decks : SameDecks allowed deck other) :
    AlikeDecks policy deck other where
  id := decks.id.symm
  version _ := decks.version.symm
  size := decks.slideSize.symm
  color := (decks.palette "bg").symm
  font := (decks.fontTable "body").symm
  tokens := alikeTokens_of_tables rfl decks.palette decks.fontTable
  plans := plans?_changed whole decks policy.layoutLookup

theorem reading?_changed (whole : ∀ name, allowed name → Text.hasHalf name = false)
    {document other : Json} (edit : Edit allowed .deck document other) :
    Option.Rel (SameDecks allowed) (Deck.reading? document) (Deck.reading? other) := by
  rcases edit.shape with ⟨r, s, rfl, rfl⟩ | ⟨xs, ys, rfl, rfl⟩
  · have agrees := (edit.leaves whole).agrees rfl
    have same := deck_changed whole agrees
    have slides := agrees "slides" (Or.inl (by decide))
    unfold Deck.reading?
    dsimp only
    rw [agrees.broken fun _ => Part.counts_half .deck]
    split
    · exact .none
    · generalize get? (withoutNulls r) "slides" = left at slides ⊢
      generalize get? (withoutNulls s) "slides" = right at slides ⊢
      cases slides with
      | none => exact .some same
      | some changed =>
        rcases Changed.shape changed with rfl | ⟨_, _, rfl, rfl⟩ | ⟨_, _, rfl, rfl⟩
        · split <;> first | exact .some same | exact .none
        · exact .none
        · exact .some same
  · exact .none

/-- A deck with nothing to draw, before and after a name that holds half a pair is added. -/
theorem half_matters {name : String} (half : Text.hasHalf name = true) :
    (render .keyed (.obj ([("slides", .arr [])] ++ [(name, .int 1)]))).outcome ≠
      (render .keyed (.obj [("slides", .arr [])])).outcome := by
  have unread : Deck.reading? (.obj ([("slides", .arr [])] ++ [(name, .int 1)])) = none := by
    have broken : (withoutNulls ([("slides", .arr [])] ++ [(name, .int 1)])).keys.any
        Text.hasHalf = true := by
      simp [withoutNulls, Json.isNull, keys, half]
    simp only [Deck.reading?, broken, if_true]
  have nothing : (render .keyed (.obj ([("slides", .arr [])] ++ [(name, .int 1)]))).outcome =
      .ok "" := by
    rw [render_eq_empty, document?_eq_none, unread]
    intro deck read
    cases read
  have something : (render .keyed (.obj [("slides", .arr [])])).outcome ≠ .ok "" := by
    rw [Ne, render_eq_empty, document?_eq_none]
    intro empty
    rcases empty (Deck.ofRecord [("slides", .arr [])]) rfl with absent | refused
    · cases absent
    · cases refused
  intro same
  exact something (same.symm.trans nothing)

/-- Edits of a document leave its rendering as it is, as long as no name that holds half a pair may
come and go. -/
theorem render_edited_iff (allowed : String → Prop) :
    (∀ (policy : RenderPolicy) (document other : Json),
      Relation.EqvGen (Edit allowed .deck) document other →
      (render policy other).outcome = (render policy document).outcome) ↔
    ∀ name, allowed name → Text.hasHalf name = false := by
  constructor
  · intro same name open_
    by_contra split
    have half : Text.hasHalf name = true := by simpa using split
    have known : ∀ field ∈ Field.spelled Deck.fields, Text.hasHalf field = false := by decide
    have foreign : name ∉ Field.spelled Deck.fields := by
      intro listed
      rw [known name listed] at half
      cases half
    have apart : name ≠ "slides" := by
      rintro rfl
      exact foreign (by decide)
    have distinct : Distinct [("slides", Json.arr []), (name, .int 1)] := by
      simp [Distinct, keys, apart.symm]
    exact half_matters half (same .keyed _ _ (.rel _ _ (.unknown rfl foreign open_ distinct)))
  · intro whole policy document other edits
    induction edits with
    | rel document other edit =>
      refine outcome_render_alike (related_imp ?_ (reading?_changed whole edit))
      exact fun _ _ decks => alikeDecks_same whole policy decks
    | refl => rfl
    | symm _ _ _ ih => exact ih.symm
    | trans _ _ _ _ _ first second => exact second.trans first

/-- The deck without slides to draw, and the same deck with one more name: one edit lies between
them, and one of them is rendered as nothing. -/
theorem render_edited_half :
    Relation.EqvGen (Edit (fun _ => True) .deck) (.obj [("slides", .arr [])])
      (.obj ([("slides", .arr [])] ++ [(halfName, .int 1)])) ∧
    (render .keyed (.obj ([("slides", .arr [])] ++ [(halfName, .int 1)]))).outcome ≠
      (render .keyed (.obj [("slides", .arr [])])).outcome := by
  constructor
  · exact .rel _ _ (.unknown rfl (by decide) trivial (by unfold Distinct; decide))
  · exact half_matters (by decide)

end DeckPress.Drawing
