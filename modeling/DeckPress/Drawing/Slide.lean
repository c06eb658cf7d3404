import DeckPress.Cascade
import DeckPress.Drawing.Shape
import DeckPress.Entity.Deck
import DeckPress.Style.Background

/-!
Slides as markup. A slide finds its layout, and in the mastered convention its master first; the
shapes of the deck, the master, the layout and the slide are merged, patched and put in order; the
background is laid together in the same way. A slide that cannot be read, or whose layout cannot
be found, is left out.
-/

namespace DeckPress.Drawing

def findById (items : List Json) (key : Option String) : Option Json :=
  match key with
  | none => none
  | some key =>
    items.find? fun item =>
      match item.fields?.bind fun fields => Json.given? fields "id" with
      | some id => id.plainText == key
      | none => false

structure Resolved where
  master : Option Master
  layout : Layout

def lookUp (lookup : LayoutLookup) (slide : Slide) (deck : Deck) :
    Except Refusal (Option Resolved) :=
  match lookup with
  | .masterList =>
    match findById deck.masters slide.master with
    | none => .ok none
    | some found => do
      let master ← Master.read found
      match findById master.layouts slide.layout with
      | none => return none
      | some found => return some ⟨some master, ← Layout.read found⟩
  | .map =>
    let found : Option Json := match deck.layouts with
      | some (.keyed layouts) => slide.layout.bind fun key => Record.get? layouts key
      | some (.listed layouts) => findById layouts slide.layout
      | none => none
    match found with
    | some (.obj fields) => do return some ⟨none, ← Layout.read (.obj fields)⟩
    | _ => .ok none

/-- The layout that a slide refers to; one at fault counts as missing, and a message says so. -/
def resolveLayout {ε : Type} (lookup : LayoutLookup) (slide : Slide) (deck : Deck) :
    Trace ε (Option Resolved) :=
  match lookUp lookup slide deck with
  | .ok found => pure found
  | .error refusal => do
    Trace.report .warning ("Unreadable layout for slide " ++ Text.quoted? slide.id ++ ": " ++
      toString refusal.count ++ " invalid field(s)")
    return none

/-- A collection as a scope of the cascade; without one the scope is empty. -/
def scopeOf (shapes : Option Collection) : Json :=
  match shapes with
  | some shapes => shapes.toJson
  | none => .null

/-- The scopes of a slide, the least specific first. -/
def scopes (deck : Deck) (found : Resolved) (slide : Slide) : List Json :=
  [scopeOf deck.shapes, scopeOf (found.master.bind (·.shapes)), scopeOf found.layout.shapes,
    scopeOf slide.shapes]

def shapesOf (deck : Deck) (found : Resolved) (slide : Slide) : Shapes :=
  Cascade.applyOverrides (Cascade.mergeShapes (scopes deck found slide)) slide.overrides

def layerOf (bg : Option (Record Json)) : Json :=
  match bg with
  | some fields => .obj fields
  | none => .null

def inherits (layout : Layout) : Bool :=
  match layout.bg.bind fun bg => Record.get? bg "inherit" with
  | some flag => flag.truthy
  | none => false

/-- The background of a slide: the deck's, the master's where it is taken in, the layout's and the
slide's laid over each other. -/
def backgroundOf (deck : Deck) (found : Resolved) (slide : Slide) : Record Json :=
  let ofMaster := match found.master with
    | some master => if inherits found.layout then [layerOf master.bg] else []
    | none => []
  Record.erase
    (Cascade.overlayFields
      (layerOf deck.bg :: ofMaster ++ [layerOf found.layout.bg, layerOf slide.bg]))
    "inherit"

/-- The declarations of a slide's background; one at fault has none, and a message says so. -/
def backgroundDeclarations {ε : Type} (slide : Slide) (background : Record Json) :
    Trace ε Declarations :=
  match Background.read (.obj background) with
  | .ok background => pure (Style.background background)
  | .error _ => do
    Trace.report .warning ("Ignoring unreadable background on slide " ++ Text.quoted? slide.id)
    return []

/-- The background as a layer of its own, below all shapes; none when nothing is painted. -/
def backgroundLayer (declarations : Declarations) (shapes : Shapes) :
    Except NumberError (List Markup) :=
  if declarations.isEmpty then .ok []
  else do
    let z ← Cascade.backgroundZ shapes
    let style : Declarations := declarations ++ [⟨"z-index", toString z⟩]
    return [Markup.division "background" [style.attribute] []]

def drawShapes (c : Context) (shapes : Shapes) : Trace NumberError (List Markup) := do
  let drawn ← shapes.mapM fun (id, record) => shape? c id (.obj record)
  return drawn.filterMap fun found => found

def drawSlide (policy : RenderPolicy) (tokens : Tokens) (deck : Deck) (found : Resolved)
    (slide : Slide) : Trace NumberError Markup := do
  Trace.reportAll ((scopes deck found slide).flatMap Cascade.ignoredEntries)
  let ordered ← Trace.quiet (Cascade.sortByZ (shapesOf deck found slide))
  let drawn ← drawShapes { policy, tokens, values := slide.values } ordered
  let declarations ← backgroundDeclarations slide (backgroundOf deck found slide)
  let id : Attribute := ⟨.slideId, slide.id.getD ""⟩
  match policy.backgroundMode with
  | .layer =>
    let layer ← Trace.quiet (backgroundLayer declarations ordered)
    return Markup.division "slide" [id] (layer ++ drawn)
  | .inline => return Markup.division "slide" [id, declarations.attribute] drawn

def slide? (policy : RenderPolicy) (tokens : Tokens) (deck : Deck) (raw : Json) :
    Trace NumberError (Option Markup) :=
  match Slide.read raw with
  | .error refusal => do
    Trace.report .warning ("Skipping unreadable slide: " ++ toString refusal.count ++
      " invalid field(s)")
    return none
  | .ok slide => do
    match ← resolveLayout policy.layoutLookup slide deck with
    | none =>
      Trace.report .warning ("Skipping slide " ++ Text.quoted? slide.id ++ ": layout " ++
        Text.quoted? slide.layout ++ " (master " ++ Text.quoted? slide.master ++ ") not found")
      return none
    | some found => return some (← drawSlide policy tokens deck found slide)

end DeckPress.Drawing
