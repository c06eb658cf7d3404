import DeckPress.Drawing.Vector
import DeckPress.Entity.Policy
import DeckPress.Interpolation
import DeckPress.Style.Box
import DeckPress.Trace

/-!
Shapes as markup. A shape is text, an image, a list, or a vector of some family; one of another
type is a vector of the fallback family, when the policy has one. What cannot be read or drawn is
left out, and a message says so.
-/

namespace DeckPress.Drawing

inductive ShapeKind where
  | text
  | image
  | list
  | vector (family : String)
  deriving DecidableEq, Repr

def ShapeKind.name : ShapeKind → String
  | .text => "text"
  | .image => "image"
  | .list => "list"
  | .vector _ => "vector"

def classify (policy : RenderPolicy) (s : Shape) : Option ShapeKind :=
  match s.type with
  | some "text" => some .text
  | some "image" => some .image
  | some "list" => some .list
  | type =>
    match type.bind Family.ofName? with
    | some family => some (.vector family.name)
    | none => policy.fallbackFamily.map .vector

/-- What stays the same from shape to shape of one slide. -/
structure Context where
  policy : RenderPolicy
  tokens : Tokens
  /-- The values of placeholders. -/
  values : Record Json

def identity (id : String) (s : Shape) : List Attribute :=
  [⟨.shapeId, id⟩, ⟨.shapeType, s.type.getD ""⟩]

def text (c : Context) (id : String) (s : Shape) : Markup :=
  let content := Interpolation.interpolate (s.text.getD "") c.values
  let declarations : Declarations :=
    Style.box s ++ Style.alignment s .left .top ++ Style.font c.tokens s
  Markup.division "shape text-shape" (identity id s ++ [declarations.attribute]) [.text content]

def image (id : String) (s : Shape) : Markup :=
  let fit : Declarations := (Style.filled s.imageFit).map fun fit => ⟨"object-fit", fit⟩
  Markup.division "shape image-shape" (identity id s ++ [Declarations.attribute (Style.box s)])
    [.text "\n    ",
      .image [⟨.source, s.imageSrc.getD ""⟩, ⟨.alternative, s.alt.getD ""⟩, fit.attribute],
      .text "\n  "]

def itemText (c : Context) (s : Shape) (item : Json) : String :=
  let bullet := match s.bullet with
    | none | some "" => ""
    | some bullet => bullet ++ " "
  Interpolation.interpolate (bullet ++ item.styleText) c.values

def list (c : Context) (id : String) (s : Shape) : Markup :=
  let style := Declarations.attribute (Style.font c.tokens s)
  let items := s.items.map fun item => Markup.element .li [style] [.text (itemText c s item)]
  let declarations : Declarations := Style.box s ++ Style.alignment s .left .middle
  Markup.division "shape list-shape" (identity id s ++ [declarations.attribute])
    [.element .ul [] items]

/-- The text over a vector shape, centred unless the shape says otherwise; none when it is
empty. -/
def overlay (c : Context) (s : Shape) : List Markup :=
  let content := Interpolation.interpolate (s.text.getD "") c.values
  if content = "" then []
  else
    let font := Style.font c.tokens s
    let declarations : Declarations := Style.alignment s .center .middle ++
      if font.isEmpty then [⟨"text-align", "center"⟩] else font
    [Markup.division "shape text-shape" [declarations.attribute] [.text content]]

def vector? (c : Context) (id : String) (s : Shape) (family : String) :
    Except NumberError (Option Markup) := do
  let picture ← svg? c.tokens c.policy.marginRatio.value s family
  return picture.map fun picture =>
    Markup.division "shape svg-shape" (identity id s ++ [Declarations.attribute (Style.box s)])
      (picture :: overlay c s)

def shape? (c : Context) (id : String) (record : Json) : Trace NumberError (Option Markup) :=
  match Shape.read record with
  | .error refusal => do
    Trace.report .debug ("Skipping shape " ++ Text.quoted id ++ ": " ++ toString refusal.count ++
      " invalid field(s)")
    return none
  | .ok s =>
    match classify c.policy s with
    | none => do
      Trace.report .debug ("Skipping shape " ++ Text.quoted id ++ " with unknown type " ++
        Text.quoted? s.type)
      return none
    | some .text => pure (some (text c id s))
    | some .image => pure (some (image id s))
    | some .list => pure (some (list c id s))
    | some (.vector family) => do
      match ← Trace.quiet (vector? c id s family) with
      | some drawn => return some drawn
      | none =>
        Trace.report .debug ("No outline for vector family " ++ Text.quoted family ++
          "; shape omitted")
        return none

end DeckPress.Drawing
