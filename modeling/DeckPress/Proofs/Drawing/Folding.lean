import DeckPress.Proofs.Cascade.Regroup
import DeckPress.Proofs.Drawing.Plan
import DeckPress.Proofs.Entity.Matching

/-!
A deck with a master, and the deck into which the master has been folded. Its shapes are merged
into those of the deck, its layouts become those of the deck, and a layout that takes in its
background carries it from then on. Looked up by key, that deck is drawn as the first one is
through its list of masters.
-/

namespace DeckPress.Drawing

open Record Cascade

def takesIn (bg : Record Json) : Bool :=
  match bg.get? "inherit" with
  | some flag => flag.truthy
  | none => false

def foldedBackground (below : Option (Record Json)) : Json → Json
  | .obj bg => if takesIn bg then .obj (overlayFields [layerOf below, .obj bg]) else .obj bg
  | value => value

def foldedField (below : Option (Record Json)) (name : String) (value : Json) : Json :=
  if name = "bg" then foldedBackground below value else value

def foldedLayout (below : Option (Record Json)) : Json → Json
  | .obj fields => .obj (fields.map fun field => (field.1, foldedField below field.1 field.2))
  | value => value

def folded (deck : Deck) (master : Master) : Deck :=
  { deck with
    shapes := some (.keyed ((mergeShapes [scopeOf deck.shapes, scopeOf master.shapes]).map
      fun entry => (entry.1, .obj entry.2)))
    layouts := some (.listed (master.layouts.map (foldedLayout master.bg))) }

/-! ## Layouts -/

def carried (below : Option (Record Json)) (layout : Layout) : Option (Record Json) :=
  if inherits layout then some (overlayFields [layerOf below, layerOf layout.bg]) else layout.bg

theorem harmless_folding (below : Option (Record Json)) :
    Exchange.Harmless (fun name v w => foldedField below name v = w) Layout.fields := by
  have background (v : Json) :
      Reader.table.faults v = Reader.table.faults (foldedBackground below v) ∧
        v.isNull = (foldedBackground below v).isNull := by
    cases v with
    | obj bg =>
      unfold foldedBackground
      dsimp only
      split <;> exact ⟨rfl, rfl⟩
    | _ => exact ⟨rfl, rfl⟩
  constructor
  · rintro name v _ rfl
    unfold foldedField
    split
    · exact (background v).2
    · rfl
  · rintro field member name spelled v _ rfl
    simp only [Layout.fields, List.mem_cons, List.not_mem_nil, or_false] at member
    rcases member with rfl | rfl | rfl | rfl <;> cases List.mem_singleton.mp spelled
    · rfl
    · rfl
    · exact (background v).1
    · rfl

theorem background_folded {below : Option (Record Json)} {r s : Record Json}
    (matching : Matches (fun name v w => foldedField below name v = w) r s) :
    s.value? Reader.table ["bg"] = carried below (Layout.ofRecord r) := by
  have own : (Layout.ofRecord r).bg = r.value? Reader.table ["bg"] := rfl
  unfold carried inherits
  rw [own, value?_singleton, value?_singleton]
  rcases matching.get? "bg" with ⟨left, right⟩ | ⟨v, w, left, right, rfl⟩
  · rw [left, right]
    rfl
  · rw [left, right]
    cases v with
    | obj bg =>
      have taken : foldedField below "bg" (.obj bg) =
          if takesIn bg then .obj (overlayFields [layerOf below, .obj bg]) else .obj bg := rfl
      rw [taken]
      change _ = if takesIn bg then some (overlayFields [layerOf below, .obj bg]) else some bg
      cases takesIn bg <;> rfl
    | _ => rfl

theorem ofRecord_folded {below : Option (Record Json)} {r s : Record Json}
    (matching : Matches (fun name v w => foldedField below name v = w) r s) :
    Layout.ofRecord s =
      { Layout.ofRecord r with bg := carried below (Layout.ofRecord r) } := by
  have kept {α : Type} (reader : Reader α) {name : String} (other : name ≠ "bg") :
      r.value? reader [name] = s.value? reader [name] := by
    refine matching.value? fun v w exchanged => ?_
    rw [← exchanged, foldedField, if_neg other]
  have id : r.value? Reader.text ["id"] = s.value? Reader.text ["id"] := kept _ (by decide)
  have name : r.value? Reader.text ["name"] = s.value? Reader.text ["name"] := kept _ (by decide)
  have shapes : r.value? Reader.collection ["shapes"] = s.value? Reader.collection ["shapes"] :=
    kept _ (by decide)
  rw [← background_folded matching]
  unfold Layout.ofRecord
  rw [id, name, shapes]

theorem exchanged_foldedLayout (below : Option (Record Json)) (item : Json) :
    Exchanged (fun name v w => foldedField below name v = w) item (foldedLayout below item) := by
  cases item with
  | obj fields => exact .fields (Matches.of_map (fun _ _ => rfl) fields)
  | _ => exact .other rfl

/-- A folded layout is read when the layout is, and only its background differs. -/
theorem read_foldedLayout (below : Option (Record Json)) (item : Json) :
    (Layout.read (foldedLayout below item)).toOption =
      (Layout.read item).toOption.map fun layout => { layout with bg := carried below layout } := by
  have read := (exchanged_foldedLayout below item).read Layout.ofRecord (harmless_folding below)
  change Option.Rel _ (Layout.read item).toOption
    (Layout.read (foldedLayout below item)).toOption at read
  generalize (Layout.read item).toOption = before at read ⊢
  generalize (Layout.read (foldedLayout below item)).toOption = after at read ⊢
  cases read with
  | none => rfl
  | some made =>
    obtain ⟨r, s, matching, rfl, rfl⟩ := made
    exact congrArg some (ofRecord_folded matching)

theorem idText?_foldedLayout (below : Option (Record Json)) (item : Json) :
    idText? (foldedLayout below item) = idText? item :=
  idText?_exchanged (fun _ _ same => same) (exchanged_foldedLayout below item)

/-! ## Slides -/

variable {deck : Deck} {master : Master} {layout : Layout}

theorem shapesOf_folded (slide : Slide) (bg : Option (Record Json)) :
    shapesOf (folded deck master) ⟨none, { layout with bg := bg }⟩ slide =
      shapesOf deck ⟨some master, layout⟩ slide := by
  -- The folded deck has no master of its own, and the scope of none is left out.
  have merged : mergeShapes [asScope (mergeShapes [scopeOf deck.shapes, scopeOf master.shapes]),
      .null, scopeOf layout.shapes, scopeOf slide.shapes] =
      mergeShapes [scopeOf deck.shapes, scopeOf master.shapes, scopeOf layout.shapes,
        scopeOf slide.shapes] :=
    (mergeShapes_null [_] [scopeOf layout.shapes, scopeOf slide.shapes]).trans
      (mergeShapes_regroup [scopeOf deck.shapes, scopeOf master.shapes] _)
  exact congrArg (applyOverrides · slide.overrides) merged

theorem backgroundOf_folded (slide : Slide) :
    backgroundOf (folded deck master) ⟨none, { layout with bg := carried master.bg layout }⟩ slide =
      backgroundOf deck ⟨some master, layout⟩ slide := by
  unfold backgroundOf carried
  dsimp only
  cases inherits layout with
  | false => rfl
  | true =>
    -- What the layout has taken in is laid over the deck at once or in two steps.
    rw [if_pos rfl, if_pos rfl]
    exact congrArg (Record.erase · "inherit")
      (overlayFields_regroup [layerOf deck.bg] [layerOf master.bg, layerOf layout.bg]
        [layerOf slide.bg])

theorem ofSlide_folded (slide : Slide) :
    Plan.ofSlide (folded deck master) slide
        ⟨none, { layout with bg := carried master.bg layout }⟩ =
      Plan.ofSlide deck slide ⟨some master, layout⟩ := by
  unfold Plan.ofSlide
  rw [shapesOf_folded, backgroundOf_folded]

theorem resolved?_mastered {slide : Slide} {item : Json} {id : String}
    (named : slide.master = some id) (found : findById deck.masters (some id) = some item)
    (read : Master.read item = .ok master) :
    resolved? .masterList slide deck =
      (findById master.layouts slide.layout).bind fun item =>
        (Layout.read item).toOption.bind fun layout => some ⟨some master, layout⟩ := by
  unfold resolved?
  dsimp only
  rw [named, found, Option.bind_some, read]
  rfl

theorem resolved?_folded (slide : Slide) :
    resolved? .map slide (folded deck master) =
      (findById master.layouts slide.layout).bind fun item =>
        (Layout.read item).toOption.bind fun layout =>
          some ⟨none, { layout with bg := carried master.bg layout }⟩ := by
  have search : layoutItem? (folded deck master).layouts slide.layout =
      (findById master.layouts slide.layout).map (foldedLayout master.bg) :=
    findById_map (idText?_foldedLayout master.bg) _ _
  unfold resolved?
  dsimp only
  rw [search, Option.bind_map]
  refine Option.bind_congr fun item _ => ?_
  rw [Function.comp_apply, read_foldedLayout, Option.bind_map]
  rfl

theorem plan?_folded {item raw : Json} {id : String}
    (found : findById deck.masters (some id) = some item) (read : Master.read item = .ok master)
    (named : ∀ slide, Slide.read raw = .ok slide → slide.master = some id) :
    plan? .map (folded deck master) raw = plan? .masterList deck raw := by
  unfold plan?
  rw [located?_eq, located?_eq]
  cases readSlide : Slide.read raw with
  | error refusal => rfl
  | ok slide =>
    dsimp only [Except.toOption, Option.bind_some]
    rw [resolved?_mastered (named slide readSlide) found read, resolved?_folded]
    cases findById master.layouts slide.layout with
    | none => rfl
    | some item =>
      dsimp only [Option.bind_some]
      cases Layout.read item with
      | error refusal => rfl
      | ok layout => exact congrArg some (ofSlide_folded slide)

/-- A deck whose readable slides all name one master is drawn through its list of masters as the
deck into which that master has been folded is drawn by key. -/
theorem deck?_folded (policy : RenderPolicy) (mastered : policy.layoutLookup = .masterList)
    (deck : Deck) {before after : List Json} {item : Json} {id : String} {master : Master}
    (listed : deck.masters = before ++ item :: after) (own : idText? item = some id)
    (first : ∀ other ∈ before, idText? other ≠ some id) (read : Master.read item = .ok master)
    (named : ∀ slides, deck.slides = some slides → ∀ raw ∈ slides, ∀ slide,
      Slide.read raw = .ok slide → slide.master = some id) :
    (deck? { policy with layoutLookup := .map } (folded deck master)).outcome =
      (deck? policy deck).outcome := by
  have found : findById deck.masters (some id) = some item := by
    rw [listed]
    exact findById_of_first own first
  have plans : plans? .map (folded deck master) = plans? policy.layoutLookup deck := by
    have same : (folded deck master).slides = deck.slides := rfl
    unfold plans?
    rw [same, mastered]
    cases known : deck.slides with
    | none => rfl
    | some slides =>
      refine congrArg some (List.filterMap_congr fun raw member => ?_)
      exact plan?_folded found read (named slides known raw member)
  exact outcome_deck?_congr rfl rfl rfl rfl rfl plans

/-! A deck with two masters, in which a slide takes its layout, and with it a background, from the
second one. -/

def foldingLayout : Record Json :=
  [("id", .str "plain"), ("bg", .obj [("inherit", .bool true), ("opacity", .int 1)])]

def foldingMaster : Record Json :=
  [("id", .int 2), ("bg", .obj [("fill", .str "red")]),
    ("shapes", .obj [("title", .obj [("type", .str "text"), ("z", .int 1)])]),
    ("layouts", .arr [.obj foldingLayout])]

def foldingSlide : Record Json :=
  [("layout", .str "plain"), ("master", .str "2")]

def foldingDeck : Deck :=
  Deck.ofRecord [("masters", .arr [.obj [("id", .int 1)], .obj foldingMaster]),
    ("shapes", .arr [.obj [("id", .str "title"), ("text", .str "Agenda")]]),
    ("slides", .arr [.obj foldingSlide, .null])]

theorem deck?_folded_inheriting :
    (plan? .masterList foldingDeck (.obj foldingSlide)).map (·.background) =
      some [⟨"background-color", "red"⟩] ∧
    (deck? { RenderPolicy.mastered with layoutLookup := .map }
      (folded foldingDeck (Master.ofRecord foldingMaster))).outcome =
      (deck? .mastered foldingDeck).outcome := by
  have read : Master.read (.obj foldingMaster) = .ok (Master.ofRecord foldingMaster) := rfl
  have first : ∀ other ∈ [Json.obj [("id", .int 1)]], idText? other ≠ some "2" := by
    intro other member
    cases List.mem_singleton.mp member
    decide
  have named : ∀ slides, foldingDeck.slides = some slides → ∀ raw ∈ slides, ∀ slide,
      Slide.read raw = .ok slide → slide.master = some "2" := by
    intro slides known raw member slide readable
    cases known
    simp only [List.mem_cons, List.not_mem_nil, or_false] at member
    rcases member with rfl | rfl
    · cases readable
      rfl
    · cases readable
  exact ⟨rfl, deck?_folded .mastered rfl foldingDeck rfl rfl first read named⟩

end DeckPress.Drawing
