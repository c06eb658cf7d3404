import DeckPress.Proofs.Drawing.Reshaping

/-!
The surface forms of a deck. Layouts and shapes may be listed with ids or keyed by them, and tokens
may stand in a theme or in the deck itself. Decks that differ in such forms only, in however many
places, come to the same plans and tables, and are drawn alike.
-/

namespace DeckPress.Drawing

open Record Cascade

/-! ## Restated decks -/

/-- Layouts in the form in which they were, or from a list of records with ids keyed by these; the
shapes of each of them may be reshaped. -/
inductive Relaid : Option Collection → Option Collection → Prop where
  | none : Relaid none none
  | keyed {r s : Record Json} (each : Matches (fun _ => Exchanged Reshaping) r s) :
      Relaid (some (.keyed r)) (some (.keyed s))
  | listed {xs ys : List Json} (each : List.Forall₂ (Exchanged Reshaping) xs ys) :
      Relaid (some (.listed xs)) (some (.listed ys))
  | turned {xs ys : List Json} (each : List.Forall₂ (Exchanged Reshaping) xs ys)
      (known : ∀ item ∈ xs, ∃ id, HasId item id)
      (distinct : (keyedBy ys).Distinct) : Relaid (some (.listed xs)) (some (.keyed (keyedBy ys)))

/-- The tokens of a deck as they were, or those of its theme moved to the deck itself, where the
deck's own win. -/
inductive Flattened (deck : Deck) : Deck → Prop where
  | same {other : Deck} (colors : other.colors = deck.colors) (fonts : other.fonts = deck.fonts)
      (theme : other.theme = deck.theme) : Flattened deck other
  | flat {other : Deck} (distinct : deck.theme.colors.Distinct ∧ deck.theme.fonts.Distinct)
      (colors : other.colors = deck.theme.colors.overlay deck.colors)
      (fonts : other.fonts = deck.theme.fonts.overlay deck.fonts)
      (theme : other.theme = Theme.ofRecord []) : Flattened deck other

structure Restated (deck other : Deck) : Prop where
  id : other.id = deck.id
  version : other.version = deck.version
  slideSize : other.slideSize = deck.slideSize
  bg : other.bg = deck.bg
  tokens : Flattened deck other
  layouts : Relaid deck.layouts other.layouts
  masters : List.Forall₂ (Exchanged Mastering) deck.masters other.masters
  shapes : Reshaped (scopeOf deck.shapes) (scopeOf other.shapes)
  slides : Option.Rel (List.Forall₂ (Exchanged Reshaping)) deck.slides other.slides

/-! ## Looking up -/

theorem idText?_reshaping {v w : Json} (exchanged : Exchanged Reshaping v w) :
    idText? w = idText? v := by
  refine idText?_exchanged (fun v w changed => ?_) exchanged
  exact changed.resolve_right fun here => absurd here.1 (by decide)

theorem idText?_mastering {v w : Json} (exchanged : Exchanged Mastering v w) :
    idText? w = idText? v := by
  refine idText?_exchanged (fun v w changed => ?_) exchanged
  rcases changed with (same | ⟨here, -⟩) | ⟨here, -⟩
  · exact same
  · exact absurd here (by decide)
  · exact absurd here (by decide)

theorem get?_keyedBy {items : List Json} (known : ∀ item ∈ items, ∃ id, idText? item = some id)
    (key : String) : get? (keyedBy items) key = findById items (some key) := by
  rw [findById_eq]
  induction items with
  | nil => rfl
  | cons item rest ih =>
    rw [List.forall_mem_cons] at known
    obtain ⟨id, own⟩ := known.1
    have first : keyedBy (item :: rest) = (id, item) :: keyedBy rest := by
      rw [keyedBy, List.map_cons, own]
      rfl
    rw [first, get?, ih known.2]
    by_cases here : id = key
    · rw [if_pos here, List.find?_cons_of_pos (by simp [own, here])]
    · rw [if_neg here, List.find?_cons_of_neg (by simp [own, here])]

theorem known_reshaping {xs ys : List Json} (each : List.Forall₂ (Exchanged Reshaping) xs ys)
    (known : ∀ item ∈ xs, ∃ id, HasId item id) :
    ∀ item ∈ ys, ∃ id, idText? item = some id := by
  induction each with
  | nil => nofun
  | cons first _ ih =>
    rw [List.forall_mem_cons] at known ⊢
    obtain ⟨id, own⟩ := known.1
    exact ⟨⟨id.plainText, (idText?_reshaping first).trans own.idText?⟩, ih known.2⟩

theorem related_layoutItem? {before after : Option Collection} (relaid : Relaid before after)
    (key : Option String) :
    Option.Rel (Exchanged Reshaping) (layoutItem? before key) (layoutItem? after key) := by
  cases relaid with
  | none => exact .none
  | keyed each =>
    cases key with
    | none => exact .none
    | some key =>
      unfold layoutItem?
      dsimp only [Option.bind_some]
      rcases each.get? key with ⟨left, right⟩ | ⟨v, w, left, right, exchanged⟩
      · rw [left, right]
        exact .none
      · rw [left, right]
        exact .some exchanged
  | listed each => exact related_findById (fun _ _ => idText?_reshaping) each key
  | turned each known _ =>
    -- Reshaped layouts keep their ids, so by key they are found as they are in the list.
    have found := related_findById (fun _ _ => idText?_reshaping) each key
    cases key with
    | none => exact .none
    | some key =>
      rw [← get?_keyedBy (known_reshaping each known)] at found
      exact found

/-! ## Plans -/

structure AlikeResolved (a b : Resolved) : Prop where
  master : Option.Rel AlikeMasters a.master b.master
  layout : AlikeLayouts a.layout b.layout

variable {deck other : Deck}

theorem related_resolved? (restated : Restated deck other) {a b : Slide} (alike : AlikeSlides a b)
    (lookup : LayoutLookup) :
    Option.Rel AlikeResolved (resolved? lookup a deck) (resolved? lookup b other) := by
  unfold resolved?
  rw [alike.master, alike.layout]
  cases lookup with
  | masterList =>
    refine related_bind (fun item item' changed => ?_)
      (related_findById (fun _ _ => idText?_mastering) restated.masters a.master)
    refine related_bind (fun master master' masters => ?_) (read_master changed)
    refine related_bind (fun item item' changed => ?_)
      (related_findById (fun _ _ => idText?_reshaping) masters.layouts a.layout)
    exact related_bind (fun _ _ layouts => .some ⟨.some masters, layouts⟩) (read_layout changed)
  | map =>
    refine related_bind (fun item item' changed => ?_)
      (related_layoutItem? restated.layouts a.layout)
    exact related_bind (fun _ _ layouts => .some ⟨.none, layouts⟩) (read_layout changed)

section Plans

variable {a b : Slide} {f g : Resolved}

theorem contributed_master {before after : Option Master}
    (masters : Option.Rel AlikeMasters before after) :
    contributed (scopeOf (after.bind (·.shapes))) =
      contributed (scopeOf (before.bind (·.shapes))) := by
  cases masters with
  | none => rfl
  | some same => exact same.shapes

theorem shapesOf_alike (restated : Restated deck other) (slides : AlikeSlides a b)
    (found : AlikeResolved f g) : shapesOf other g b = shapesOf deck f a := by
  have merged : mergeShapes (scopes other g b) = mergeShapes (scopes deck f a) := by
    rw [mergeShapes_eq, mergeShapes_eq]
    simp only [scopes, List.flatMap_cons, contributed_reshaped restated.shapes,
      contributed_master found.master, found.layout.shapes, slides.shapes]
  rw [shapesOf, shapesOf, merged, slides.overrides]

theorem backgroundOf_alike (restated : Restated deck other) (slides : AlikeSlides a b)
    (found : AlikeResolved f g) : backgroundOf other g b = backgroundOf deck f a := by
  have taken : inherits g.layout = inherits f.layout := by
    rw [inherits, inherits, found.layout.bg]
  have masters := found.master
  unfold backgroundOf
  rw [restated.bg, found.layout.bg, slides.bg, taken]
  generalize f.master = below at masters ⊢
  generalize g.master = above at masters ⊢
  cases masters with
  | none => rfl
  | some same =>
    dsimp only
    rw [same.bg]

theorem ofSlide_alike (restated : Restated deck other) (slides : AlikeSlides a b)
    (found : AlikeResolved f g) : Plan.ofSlide other b g = Plan.ofSlide deck a f := by
  unfold Plan.ofSlide
  rw [slides.id, slides.values, shapesOf_alike restated slides found,
    backgroundOf_alike restated slides found]

end Plans

theorem plan?_restated (restated : Restated deck other) (lookup : LayoutLookup) {v w : Json}
    (changed : Exchanged Reshaping v w) : plan? lookup other w = plan? lookup deck v := by
  have places : Option.Rel (fun p q => Plan.ofSlide other q.1 q.2 = Plan.ofSlide deck p.1 p.2)
      (located? lookup deck v) (located? lookup other w) := by
    rw [located?_eq, located?_eq]
    refine related_bind (fun a b slides => ?_) (read_slide changed)
    refine related_bind (fun f g found => ?_) (related_resolved? restated slides lookup)
    exact .some (ofSlide_alike restated slides found)
  unfold plan?
  generalize located? lookup deck v = before at places ⊢
  generalize located? lookup other w = after at places ⊢
  cases places with
  | none => rfl
  | some same => exact congrArg some same

theorem plans?_restated (restated : Restated deck other) (lookup : LayoutLookup) :
    plans? lookup other = plans? lookup deck := by
  have slides := restated.slides
  unfold plans?
  generalize deck.slides = before at slides ⊢
  generalize other.slides = after at slides ⊢
  cases slides with
  | none => rfl
  | @some before after each =>
    have planned : after.filterMap (plan? lookup other) = before.filterMap (plan? lookup deck) := by
      induction each with
      | nil => rfl
      | cons first _ ih =>
        rw [List.filterMap_cons, List.filterMap_cons, ih, plan?_restated restated lookup first]
    exact congrArg some planned

/-! ## Tokens -/

theorem palette_flattened (flattened : Flattened deck other) : other.palette = deck.palette := by
  unfold Deck.palette
  cases flattened with
  | same colors _ theme => rw [colors, theme]
  | flat distinct colors _ theme =>
    rw [colors, theme]
    exact ofEntries_of_distinct (distinct_overlay distinct.1 deck.colors)

theorem fontTable_flattened (flattened : Flattened deck other) :
    other.fontTable = deck.fontTable := by
  unfold Deck.fontTable
  cases flattened with
  | same _ fonts theme => rw [fonts, theme]
  | flat distinct _ fonts theme =>
    rw [fonts, theme]
    exact ofEntries_of_distinct (distinct_overlay distinct.2 deck.fonts)

/-- A deck is drawn alike in all its surface forms. -/
theorem deck?_restated (policy : RenderPolicy) {deck other : Deck}
    (restated : Restated deck other) : (deck? policy other).outcome = (deck? policy deck).outcome :=
  outcome_deck?_congr restated.id restated.version restated.slideSize
    (palette_flattened restated.tokens) (fontTable_flattened restated.tokens)
    (plans?_restated restated policy.layoutLookup)

/-! A deck with lists of shapes and layouts and a theme, and the deck with all of these restated. -/

def logo : Json :=
  .obj [("id", .int 7), ("type", .str "image")]

def heading : Json :=
  .obj [("id", .str "title"), ("type", .str "text"), ("text_color", .str "ink")]

def greeting : Json :=
  .obj [("id", .str "title"), ("text", .str "Hello")]

def template (id : String) (shapes : Json) : Record Json :=
  [("id", .str id), ("shapes", shapes)]

def welcome (shapes : Json) : Record Json :=
  [("layout", .str "plain"), ("shapes", shapes)]

def listedDeck : Deck :=
  Deck.ofRecord [("theme", .obj [("colors", .obj [("ink", .str "red")])]),
    ("colors", .obj [("ink", .str "navy")]),
    ("layouts", .arr [.obj (template "plain" (.arr [heading])), .obj (template "bare" .null)]),
    ("masters", .arr [.obj (template "main" (.arr [logo]))]),
    ("shapes", .arr [logo]), ("slides", .arr [.obj (welcome (.arr [greeting]))])]

def keyedDeck : Deck :=
  { listedDeck with
    colors := [("ink", .str "navy")]
    theme := Theme.ofRecord []
    layouts := some (.keyed (keyedBy [.obj (template "plain" (.obj (keyedBy [heading]))),
      .obj (template "bare" .null)]))
    masters := [.obj (template "main" (.obj (keyedBy [logo])))]
    shapes := some (.keyed (keyedBy [logo]))
    slides := some [.obj (welcome (.obj (keyedBy [greeting])))] }

theorem reshaped_single {fields : Record Json} {id : Json}
    (given : Json.given? fields "id" = some id) (filled : id ≠ .str "") :
    Reshaped (.arr [.obj fields]) (.obj (keyedBy [.obj fields])) := by
  refine .keyed (List.forall_mem_singleton.mpr ⟨id, ⟨fields, rfl, given⟩, filled⟩) ?_
  exact List.nodup_singleton _

theorem exchanged_template {P : Exchange} (unchanged : ∀ name value, P name value value)
    (id : String) {v w : Json} (reshaped : P "shapes" v w) :
    Exchanged P (.obj (template id v)) (.obj (template id w)) :=
  .fields (.cons ⟨rfl, unchanged _ _⟩ (.cons ⟨rfl, reshaped⟩ .nil))

theorem restated_keyedDeck : Restated listedDeck keyedDeck := by
  have logos : Reshaped (.arr [logo]) (.obj (keyedBy [logo])) := reshaped_single rfl (by simp)
  have headings : Reshaped (.arr [heading]) (.obj (keyedBy [heading])) :=
    reshaped_single rfl (by simp)
  have greetings : Reshaped (.arr [greeting]) (.obj (keyedBy [greeting])) :=
    reshaped_single rfl (by simp)
  have layouts : Relaid listedDeck.layouts keyedDeck.layouts := by
    refine .turned (.cons (exchanged_template reshaping_same "plain" (Or.inr ⟨rfl, headings⟩))
      (.cons (.rfl_of reshaping_same _) .nil)) ?_ ?_
    · simp only [List.forall_mem_cons]
      exact ⟨⟨_, _, rfl, rfl⟩, ⟨_, _, rfl, rfl⟩, nofun⟩
    · exact (by decide : ["plain", "bare"].Nodup)
  exact {
    id := rfl
    version := rfl
    slideSize := rfl
    bg := rfl
    tokens := .flat ⟨List.nodup_singleton _, List.nodup_nil⟩ rfl rfl rfl
    layouts
    masters := .cons (exchanged_template mastering_same "main" (Or.inl (Or.inr ⟨rfl, logos⟩))) .nil
    shapes := logos
    slides := .some (.cons (.fields (.cons ⟨rfl, Or.inl rfl⟩
      (.cons ⟨rfl, Or.inr ⟨rfl, greetings⟩⟩ .nil))) .nil) }

/-- All the rewritings together leave its one slide as it is. -/
theorem deck?_restated_keyed :
    (plans? .map listedDeck).map List.length = some 1 ∧
    (deck? .keyed keyedDeck).outcome = (deck? .keyed listedDeck).outcome :=
  ⟨rfl, deck?_restated .keyed restated_keyedDeck⟩

end DeckPress.Drawing
