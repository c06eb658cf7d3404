import DeckPress.Proofs.Cascade.Sameness
import DeckPress.Proofs.Drawing.Reshaping
import DeckPress.Proofs.Entity.Edit

/-!
What is read of a document that was edited. Themes, layouts, masters, slides and decks are read as
they were before, in all that drawing asks of them: tables have the same entries, backgrounds and
shape records the same fields, and shapes keep their places.
-/

namespace DeckPress.Drawing

open Record Cascade

variable {allowed : String → Prop} {v w : Json}

/-! ## Shapes, tables and patches -/

theorem sameEntries_refl (counts : String → Prop) (entries : List (String × Record Json)) :
    SameEntries counts entries entries :=
  List.forall₂_same.mpr fun entry _ => ⟨rfl, .refl entry.2⟩

theorem counts_shape {name : String} (listed : name ∈ Field.spelled Shape.fields) :
    Part.shape.Counts name :=
  Or.inl listed

theorem idAt_same {r s : Record Json} (same : SameOn Part.shape.Counts r s) (index : Nat) :
    idAt index r = idAt index s := by
  have own : Json.given? r "id" = Json.given? s "id" := by
    unfold Json.given?
    rw [same.first "id" (counts_shape (by decide))]
  unfold idAt
  rw [own]

theorem contributedFields_changed (whole : ∀ name, allowed name → Text.hasHalf name = false)
    {r s : Record Json} (matching : Matches (fun _ => Changed allowed (some .shape)) r s) :
    SameEntries Part.shape.Counts (contributedFields r) (contributedFields s) := by
  induction matching with
  | nil => exact .nil
  | @cons a b _ _ here _ ih =>
    obtain ⟨id, v⟩ := a
    obtain ⟨other, w⟩ := b
    obtain ⟨same, changed⟩ := here
    cases same
    rcases changed.sameOn whole rfl (fun _ => rfl) rfl with rfl | ⟨r, s, rfl, rfl, same⟩
    · cases v with
      | obj record => exact .cons ⟨rfl, .refl record⟩ ih
      | _ => exact ih
    · exact .cons ⟨rfl, same⟩ ih

theorem contributedFrom_changed (whole : ∀ name, allowed name → Text.hasHalf name = false)
    {xs ys : List Json} (each : List.Forall₂ (Changed allowed (some .shape)) xs ys) (index : Nat) :
    SameEntries Part.shape.Counts (contributedFrom index xs) (contributedFrom index ys) := by
  induction each generalizing index with
  | nil => exact .nil
  | @cons v w _ _ changed _ ih =>
    rcases changed.sameOn whole rfl (fun _ => rfl) rfl with rfl | ⟨r, s, rfl, rfl, same⟩
    · cases v with
      | obj record => exact .cons ⟨rfl, .refl record⟩ (ih (index + 1))
      | _ => exact ih (index + 1)
    · exact .cons ⟨idAt_same same index, same⟩ (ih (index + 1))

theorem contributed_changed (whole : ∀ name, allowed name → Text.hasHalf name = false)
    (changed : Changed allowed (some .shapes) v w) :
    SameEntries Part.shape.Counts (contributed v) (contributed w) := by
  rcases changed with rfl | ⟨_, place, edit⟩
  · exact sameEntries_refl _ _
  · cases place
    rcases edit.shape with ⟨r, s, rfl, rfl⟩ | ⟨xs, ys, rfl, rfl⟩
    · exact contributedFields_changed whole (edit.fields rfl rfl rfl)
    · exact contributedFrom_changed whole edit.items 0

theorem table_changed (whole : ∀ name, allowed name → Text.hasHalf name = false) {part : Part}
    (changed : Changed allowed (some part) v w) (single : part.item = none)
    (leaf : ∀ name, part.under name = none) (kept : part.dropsNulls = false) :
    Option.Rel (SameOn part.Counts) (Reader.table v).toOption (Reader.table w).toOption := by
  rcases changed.sameOn whole single leaf kept with rfl | ⟨r, s, rfl, rfl, same⟩
  · cases v with
    | obj r => exact .some (.refl r)
    | _ => exact .none
  · exact .some same

theorem values_changed (whole : ∀ name, allowed name → Text.hasHalf name = false)
    (changed : Changed allowed (some .values) v w) :
    Option.Rel (fun a b => ∀ name, Json.given? a name = Json.given? b name)
      (Reader.table v).toOption (Reader.table w).toOption := by
  rcases changed.flat whole rfl fun _ => rfl with rfl | ⟨r, s, rfl, rfl, -, same⟩
  · cases v with
    | obj r => exact .some fun _ => rfl
    | _ => exact .none
  · exact .some fun name => same name trivial

theorem patch_changed (whole : ∀ name, allowed name → Text.hasHalf name = false)
    (changed : Changed allowed (some .override) v w) : SamePatches Part.shape.Counts v w := by
  rcases changed.sameOn whole rfl (fun _ => rfl) rfl with rfl | ⟨r, s, rfl, rfl, same⟩
  · exact .same v
  · have known {name : String} (counted : Part.shape.Counts name) : Part.override.Counts name :=
      counted.imp_left (List.mem_cons_of_mem "shape")
    refine .fields (same.first "shape" (Or.inl List.mem_cons_self)) ⟨?_, ?_⟩
    · exact fun name counted => same.first name (known counted)
    · exact fun name counted => same.last name (known counted)

theorem items_changed {part item : Part} (within : part.item = some item)
    (changed : Changed allowed (some part) v w) :
    Option.Rel (List.Forall₂ (Changed allowed (some item))) (Reader.list v).toOption
      (Reader.list w).toOption := by
  rcases changed with rfl | ⟨_, place, edit⟩
  · cases v with
    | arr items => exact .some (List.forall₂_same.mpr fun value _ => Or.inl rfl)
    | _ => exact .none
  · cases place
    rcases edit.shape with ⟨r, s, rfl, rfl⟩ | ⟨xs, ys, rfl, rfl⟩
    · exact .none
    · rw [← within]
      exact .some edit.items

/-! ## Fields -/

section Fields

variable {part : Part} {r s : Record Json}

theorem value?_leaf {α : Type}
    (agrees : Agrees (part.within allowed) part.Counts r s)
    (reader : Reader α) {name : String} (counted : part.Counts name)
    (leaf : part.under name = none) : r.value? reader [name] = s.value? reader [name] := by
  rw [value?_singleton, value?_singleton]
  have here := agrees name counted
  dsimp only [Part.within] at here
  rw [leaf] at here
  generalize get? r name = left at here ⊢
  generalize get? s name = right at here ⊢
  cases here with
  | none => rfl
  | some changed => rw [changed.eq]

theorem value?_place {α : Type} {R : α → α → Prop} {reader : Reader α} {name : String}
    {child : Part} (agrees : Agrees (part.within allowed) part.Counts r s)
    (counted : part.Counts name) (place : part.under name = some child)
    (reads : ∀ v w, Changed allowed (some child) v w →
      Option.Rel R (reader v).toOption (reader w).toOption) :
    Option.Rel R (r.value? reader [name]) (s.value? reader [name]) := by
  refine agrees.value? counted fun v w changed => reads v w ?_
  rw [← place]
  exact changed

theorem bg_changed (whole : ∀ name, allowed name → Text.hasHalf name = false)
    (agrees : Agrees (part.within allowed) part.Counts r s)
    (counted : part.Counts "bg") (place : part.under "bg" = some .background) :
    Option.Rel (SameOn Part.background.Counts) (r.value? Reader.table ["bg"])
      (s.value? Reader.table ["bg"]) :=
  value?_place agrees counted place fun _ _ changed =>
    table_changed whole changed rfl (fun _ => rfl) rfl

theorem shapes_changed (whole : ∀ name, allowed name → Text.hasHalf name = false)
    (agrees : Agrees (part.within allowed) part.Counts r s)
    (counted : part.Counts "shapes") (place : part.under "shapes" = some .shapes) :
    SameEntries Part.shape.Counts
      (contributed (scopeOf (r.value? Reader.collection ["shapes"])))
      (contributed (scopeOf (s.value? Reader.collection ["shapes"]))) := by
  rw [value?_singleton, value?_singleton]
  have here := agrees "shapes" counted
  dsimp only [Part.within] at here
  rw [place] at here
  generalize get? r "shapes" = left at here ⊢
  generalize get? s "shapes" = right at here ⊢
  cases here with
  | none => exact .nil
  | some changed =>
    rw [Option.bind_some, Option.bind_some, contributed_collection, contributed_collection]
    exact contributed_changed whole changed

end Fields

theorem list_changed {part child item : Part} {r s : Record Json} {name : String}
    (agrees : Agrees (part.within allowed) part.Counts r s) (counted : part.Counts name)
    (place : part.under name = some child) (within : child.item = some item) :
    List.Forall₂ (Changed allowed (some item)) ((r.value? Reader.list [name]).getD [])
      ((s.value? Reader.list [name]).getD []) := by
  have lists := value?_place agrees counted place fun _ _ changed => items_changed within changed
  exact related_getD lists .nil

/-! ## Layouts, masters and slides -/

structure SameLayouts (a b : Layout) : Prop where
  bg : Option.Rel (SameOn Part.background.Counts) a.bg b.bg
  shapes : SameEntries Part.shape.Counts (contributed (scopeOf a.shapes))
    (contributed (scopeOf b.shapes))

structure SameMasters (allowed : String → Prop) (a b : Master) : Prop where
  bg : Option.Rel (SameOn Part.background.Counts) a.bg b.bg
  shapes : SameEntries Part.shape.Counts (contributed (scopeOf a.shapes))
    (contributed (scopeOf b.shapes))
  layouts : List.Forall₂ (Changed allowed (some .layout)) a.layouts b.layouts

structure SameSlides (a b : Slide) : Prop where
  id : a.id = b.id
  layout : a.layout = b.layout
  master : a.master = b.master
  bg : Option.Rel (SameOn Part.background.Counts) a.bg b.bg
  shapes : SameEntries Part.shape.Counts (contributed (scopeOf a.shapes))
    (contributed (scopeOf b.shapes))
  values : ∀ name, Json.given? a.values name = Json.given? b.values name
  overrides : List.Forall₂ (SamePatches Part.shape.Counts) a.overrides b.overrides

theorem shallow_table {spellings : List String} : Changed.Shallow (.may spellings Reader.table) :=
  ⟨fun _ _ => rfl, fun _ _ => rfl⟩

theorem shallow_list {spellings : List String} : Changed.Shallow (.may spellings Reader.list) :=
  ⟨fun _ _ => rfl, fun _ _ => rfl⟩

theorem shallow_collection {spellings : List String} :
    Changed.Shallow (.may spellings Reader.collection) :=
  ⟨fun _ _ => rfl, fun _ _ => rfl⟩

theorem layout_changed (whole : ∀ name, allowed name → Text.hasHalf name = false)
    (changed : Changed allowed (some .layout) v w) :
    InStep SameLayouts (Layout.read v) (Layout.read w) := by
  refine changed.read whole rfl rfl rfl ?_ ?_
  · intro field member name spelled v w inner
    simp only [Layout.fields, List.mem_cons, List.not_mem_nil, or_false] at member
    rcases member with rfl | rfl | rfl | rfl <;> cases List.mem_singleton.mp spelled
    · rw [inner.eq]
    · rw [inner.eq]
    · exact inner.faults_shallow shallow_table
    · exact inner.faults_shallow shallow_collection
  · intro r s agrees
    exact ⟨bg_changed whole agrees (Or.inl (by decide)) rfl,
      shapes_changed whole agrees (Or.inl (by decide)) rfl⟩

theorem master_changed (whole : ∀ name, allowed name → Text.hasHalf name = false)
    (changed : Changed allowed (some .master) v w) :
    InStep (SameMasters allowed) (Master.read v) (Master.read w) := by
  refine changed.read whole rfl rfl rfl ?_ ?_
  · intro field member name spelled v w inner
    simp only [Master.fields, List.mem_cons, List.not_mem_nil, or_false] at member
    rcases member with rfl | rfl | rfl | rfl | rfl <;> cases List.mem_singleton.mp spelled
    · rw [inner.eq]
    · rw [inner.eq]
    · exact inner.faults_shallow shallow_table
    · exact inner.faults_shallow shallow_collection
    · exact inner.faults_shallow shallow_list
  · intro r s agrees
    exact ⟨bg_changed whole agrees (Or.inl (by decide)) rfl,
      shapes_changed whole agrees (Or.inl (by decide)) rfl,
      list_changed agrees (Or.inl (by decide)) rfl rfl⟩

theorem slide_changed (whole : ∀ name, allowed name → Text.hasHalf name = false)
    (changed : Changed allowed (some .slide) v w) :
    InStep SameSlides (Slide.read v) (Slide.read w) := by
  refine changed.read whole rfl rfl rfl ?_ ?_
  · intro field member name spelled v w inner
    simp only [Slide.fields, List.mem_cons, List.not_mem_nil, or_false] at member
    rcases member with rfl | rfl | rfl | rfl | rfl | rfl | rfl <;>
      cases List.mem_singleton.mp spelled
    · rw [inner.eq]
    · rw [inner.eq]
    · rw [inner.eq]
    · exact inner.faults_shallow shallow_table
    · exact inner.faults_shallow shallow_collection
    · exact inner.faults_shallow shallow_table
    · exact inner.faults_shallow shallow_list
  · intro r s agrees
    have values := value?_place agrees (show Part.slide.Counts "meta" from Or.inl (by decide)) rfl
      fun _ _ changed => values_changed whole changed
    have patches : List.Forall₂ (Changed allowed (some .override))
        ((r.value? Reader.list ["overrides"]).getD [])
        ((s.value? Reader.list ["overrides"]).getD []) :=
      list_changed agrees (Or.inl (by decide)) rfl rfl
    constructor
    case id => exact value?_leaf agrees Reader.text (Or.inl (by decide)) rfl
    case layout => exact value?_leaf agrees Reader.text (Or.inl (by decide)) rfl
    case master => exact value?_leaf agrees Reader.text (Or.inl (by decide)) rfl
    case bg => exact bg_changed whole agrees (Or.inl (by decide)) rfl
    case shapes => exact shapes_changed whole agrees (Or.inl (by decide)) rfl
    case values => exact related_getD values fun _ => rfl
    case overrides => exact patches.imp fun _ _ changed => patch_changed whole changed

theorem idText?_changed (whole : ∀ name, allowed name → Text.hasHalf name = false) {part : Part}
    (changed : Changed allowed (some part) v w) (dropped : part.dropsNulls = true)
    (counted : part.Counts "id") (leaf : part.under "id" = none) : idText? w = idText? v := by
  rcases changed with rfl | ⟨_, place, edit⟩
  · rfl
  · cases place
    rcases edit.shape with ⟨r, s, rfl, rfl⟩ | ⟨xs, ys, rfl, rfl⟩
    · have here := (edit.leaves whole).values "id" counted
      have own : Json.given? r "id" = Json.given? s "id" := by
        unfold Part.value? at here
        rw [leaf, if_pos dropped, if_pos dropped] at here
        generalize Json.given? r "id" = left at here ⊢
        generalize Json.given? s "id" = right at here ⊢
        cases here with
        | none => rfl
        | some changed => exact congrArg some changed.eq
      unfold idText?
      dsimp only [Json.fields?, Option.bind_some]
      rw [own]
    · rfl

/-! ## Decks -/

theorem size_changed (whole : ∀ name, allowed name → Text.hasHalf name = false)
    (changed : Changed allowed (some .slideSize) v w) : SlideSize.read v = SlideSize.read w := by
  refine InStep.eq (changed.read whole rfl rfl rfl ?_ ?_)
  · intro field _ name _ v w inner
    have same : v = w := inner.eq
    rw [same]
  · intro r s agrees
    have kept {α : Type} (reader : Reader α) (name : String)
        (listed : name ∈ Field.spelled SlideSize.fields) :
        r.value? reader [name] = s.value? reader [name] :=
      value?_leaf agrees reader (Or.inl listed) rfl
    unfold SlideSize.ofRecord
    rw [kept _ "w" (by decide), kept _ "h" (by decide), kept _ "unit" (by decide)]

structure SameThemes (a b : Theme) : Prop where
  colors : SameOn Part.table.Counts a.colors b.colors
  fonts : SameOn Part.table.Counts a.fonts b.fonts

theorem tables_changed (whole : ∀ name, allowed name → Text.hasHalf name = false) {part : Part}
    {r s : Record Json} {name : String} (agrees : Agrees (part.within allowed) part.Counts r s)
    (counted : part.Counts name) (place : part.under name = some .table) :
    SameOn Part.table.Counts ((r.value? Reader.table [name]).getD [])
      ((s.value? Reader.table [name]).getD []) := by
  have tables := value?_place agrees counted place fun _ _ changed =>
    table_changed whole changed rfl (fun _ => rfl) rfl
  exact related_getD tables (.refl [])

theorem theme_changed (whole : ∀ name, allowed name → Text.hasHalf name = false)
    (changed : Changed allowed (some .theme) v w) :
    InStep SameThemes (Theme.read v) (Theme.read w) := by
  refine changed.read whole rfl rfl rfl ?_ ?_
  · intro field member name spelled v w inner
    simp only [Theme.fields, List.mem_cons, List.not_mem_nil, or_false] at member
    rcases member with rfl | rfl <;> exact inner.faults_shallow shallow_table
  · intro r s agrees
    exact ⟨tables_changed whole agrees (Or.inl (by decide)) rfl,
      tables_changed whole agrees (Or.inl (by decide)) rfl⟩

theorem layoutItem?_changed (whole : ∀ name, allowed name → Text.hasHalf name = false)
    (changed : Changed allowed (some .layouts) v w) (key : Option String) :
    Option.Rel (Changed allowed (some .layout)) (layoutItem? (Reader.collection v).toOption key)
      (layoutItem? (Reader.collection w).toOption key) := by
  have same (found : Option Json) : Option.Rel (Changed allowed (some .layout)) found found := by
    cases found with
    | none => exact .none
    | some value => exact .some (Or.inl rfl)
  rcases changed with rfl | ⟨_, place, edit⟩
  · exact same _
  · cases place
    rcases edit.shape with ⟨r, s, rfl, rfl⟩ | ⟨xs, ys, rfl, rfl⟩
    · cases key with
      | none => exact .none
      | some key => exact (edit.leaves whole).values key trivial
    · refine related_findById (fun x y changed => ?_) edit.items key
      exact idText?_changed whole changed rfl (Or.inl (by decide)) rfl

/-- Decks that hold the same in all that drawing asks of them, up to an edit inside. -/
structure SameDecks (allowed : String → Prop) (a b : Deck) : Prop where
  id : a.id = b.id
  version : a.version = b.version
  slideSize : a.slideSize = b.slideSize
  palette : ∀ name, get? a.palette name = get? b.palette name
  fontTable : ∀ name, get? a.fontTable name = get? b.fontTable name
  layouts : ∀ key, Option.Rel (Changed allowed (some .layout)) (layoutItem? a.layouts key)
    (layoutItem? b.layouts key)
  masters : List.Forall₂ (Changed allowed (some .master)) a.masters b.masters
  shapes : SameEntries Part.shape.Counts (contributed (scopeOf a.shapes))
    (contributed (scopeOf b.shapes))
  bg : Option.Rel (SameOn Part.background.Counts) a.bg b.bg
  slides : Option.Rel (List.Forall₂ (Changed allowed (some .slide))) a.slides b.slides

theorem toOption_entity {α : Type} (read : Json → Except Refusal α) (j : Json) :
    (Reader.entity read j).toOption = (read j).toOption := by
  unfold Reader.entity
  cases read j <;> rfl

theorem deck_changed (whole : ∀ name, allowed name → Text.hasHalf name = false)
    {r s : Record Json} (agrees : Agrees (Part.deck.within allowed) Part.deck.Counts r s) :
    SameDecks allowed (Deck.ofRecord r) (Deck.ofRecord s) := by
  have themes : SameThemes (Deck.ofRecord r).theme (Deck.ofRecord s).theme := by
    have read : Option.Rel SameThemes (r.value? (Reader.entity Theme.read) ["theme"])
        (s.value? (Reader.entity Theme.read) ["theme"]) := by
      refine value?_place agrees (Or.inl (by decide)) rfl fun v w changed => ?_
      rw [toOption_entity, toOption_entity]
      exact (theme_changed whole changed).toOption
    exact related_getD read ⟨.refl [], .refl []⟩
  have tables {below above table other : Record Json}
      (theme : SameOn Part.table.Counts below above) (own : SameOn Part.table.Counts table other)
      (name : String) :
      get? (Record.overlay below table) name = get? (Record.overlay above other) name := by
    rw [get?_overlay, get?_overlay, own.last name trivial, theme.first name trivial]
  constructor
  case id => exact value?_leaf agrees Reader.text (Or.inl (by decide)) rfl
  case version => exact value?_leaf agrees Reader.text (Or.inl (by decide)) rfl
  case slideSize =>
    have read : Option.Rel Eq (r.value? (Reader.entity SlideSize.read) ["slide_size"])
        (s.value? (Reader.entity SlideSize.read) ["slide_size"]) := by
      refine value?_place agrees (Or.inl (by decide)) rfl fun v w changed => ?_
      rw [toOption_entity, toOption_entity, size_changed whole changed]
      exact (InStep.of_eq rfl).toOption
    exact related_getD read rfl
  case palette =>
    exact tables themes.colors (tables_changed whole agrees (Or.inl (by decide)) rfl)
  case fontTable =>
    exact tables themes.fonts (tables_changed whole agrees (Or.inl (by decide)) rfl)
  case layouts =>
    intro key
    have own (t : Record Json) : (Deck.ofRecord t).layouts =
        (get? t "layouts").bind fun value => (Reader.collection value).toOption :=
      value?_singleton t Reader.collection "layouts"
    have here : Option.Rel (Changed allowed (some .layouts)) (get? r "layouts")
        (get? s "layouts") := agrees "layouts" (Or.inl (by decide))
    rw [own, own]
    generalize get? r "layouts" = left at here ⊢
    generalize get? s "layouts" = right at here ⊢
    cases here with
    | none => exact .none
    | some changed => exact layoutItem?_changed whole changed key
  case masters => exact list_changed agrees (Or.inl (by decide)) rfl rfl
  case shapes => exact shapes_changed whole agrees (Or.inl (by decide)) rfl
  case bg => exact bg_changed whole agrees (Or.inl (by decide)) rfl
  case slides =>
    exact value?_place agrees (Or.inl (by decide)) rfl fun _ _ changed =>
      items_changed rfl changed

end DeckPress.Drawing
