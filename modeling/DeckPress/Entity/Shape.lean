import DeckPress.Entity.Field

/-!
Shapes, read from a record that the cascade has put together. Text fields have two spellings, each
a field of its own; what is drawn takes the first of the two that is set.
-/

namespace DeckPress

inductive Dashes where
  | text (s : String)
  | lengths (amounts : List Amount)

def Dashes.toJson : Dashes → Json
  | .text s => .str s
  | .lengths amounts => .arr (amounts.map Amount.toJson)

def Dashes.isEmpty : Dashes → Bool
  | .text s => s == ""
  | .lengths amounts => amounts.isEmpty

/-- Reads dashes. A list has the faults of its elements and the one that it is no text; a value
that is neither has one fault for each. -/
def Reader.dashes : Reader Dashes
  | .arr items =>
    match total (items.map (Reader.faults Reader.amount)) with
    | 0 => .ok (.lengths (items.filterMap fun item => (Reader.amount item).toOption))
    | n => .error (n + 1)
  | j =>
    match Reader.text j with
    | .ok s => .ok (.text s)
    | .error _ => .error 2

structure Shape where
  id : Option String
  type : Option String
  x : Option Amount
  y : Option Amount
  w : Option Amount
  h : Option Amount
  unit : Option String
  z : Option Amount
  opacity : Option Amount
  text : Option String
  textFont : Option String
  fontFamily : Option String
  textSize : Option Amount
  fontSize : Option Amount
  textWeight : Option Amount
  fontWeight : Option Amount
  textColor : Option String
  color : Option String
  textAlign : Option String
  textValign : Option String
  lineHeight : Option Amount
  items : List Json
  bullet : Option String
  imageSrc : Option String
  alt : Option String
  imageFit : Option String
  fill : Option String
  stroke : Option String
  strokeWidth : Option Amount
  strokeDashes : Option Dashes
  strokeLinecap : Option String
  strokeLinejoin : Option String
  strokeOpacity : Option Amount
  margin : Option Amount
  curvature : Option Amount
  tipSize : Option Amount
  stemSize : Option Amount

namespace Shape

def tipSpellings : List String := ["tipSize", "tip_size"]

def stemSpellings : List String := ["stemSize", "stem_size"]

def fields : List Field :=
  [.may ["id"] Reader.text, .may ["type"] Reader.text,
    .may ["x"] Reader.amount, .may ["y"] Reader.amount,
    .may ["w"] Reader.amount, .may ["h"] Reader.amount, .may ["unit"] Reader.text,
    .may ["z"] Reader.amount, .may ["opacity"] Reader.amount,
    .may ["text"] Reader.text,
    .may ["text_font"] Reader.text, .may ["font_family"] Reader.text,
    .may ["text_size"] Reader.amount, .may ["font_size"] Reader.amount,
    .may ["text_weight"] Reader.amount, .may ["font_weight"] Reader.amount,
    .may ["text_color"] Reader.text, .may ["color"] Reader.text,
    .may ["text_align"] Reader.text, .may ["text_valign"] Reader.text,
    .may ["line_height"] Reader.amount,
    .may ["items"] Reader.list, .may ["bullet"] Reader.text,
    .may ["image_src"] Reader.text, .may ["alt"] Reader.text, .may ["image_fit"] Reader.text,
    .may ["fill"] Reader.text, .may ["stroke"] Reader.text,
    .may ["stroke_width"] Reader.amount, .may ["stroke_dasharray"] Reader.dashes,
    .may ["stroke_linecap"] Reader.text, .may ["stroke_linejoin"] Reader.text,
    .may ["stroke_opacity"] Reader.amount,
    .may ["margin"] Reader.amount, .may ["curvature"] Reader.amount,
    .may tipSpellings Reader.amount, .may stemSpellings Reader.amount]

def ofRecord (r : Record Json) : Shape :=
  let text (name : String) := r.value? Reader.text [name]
  let amount (name : String) := r.value? Reader.amount [name]
  { id := text "id"
    type := text "type"
    x := amount "x"
    y := amount "y"
    w := amount "w"
    h := amount "h"
    unit := text "unit"
    z := amount "z"
    opacity := amount "opacity"
    text := text "text"
    textFont := text "text_font"
    fontFamily := text "font_family"
    textSize := amount "text_size"
    fontSize := amount "font_size"
    textWeight := amount "text_weight"
    fontWeight := amount "font_weight"
    textColor := text "text_color"
    color := text "color"
    textAlign := text "text_align"
    textValign := text "text_valign"
    lineHeight := amount "line_height"
    items := (r.value? Reader.list ["items"]).getD []
    bullet := text "bullet"
    imageSrc := text "image_src"
    alt := text "alt"
    imageFit := text "image_fit"
    fill := text "fill"
    stroke := text "stroke"
    strokeWidth := amount "stroke_width"
    strokeDashes := r.value? Reader.dashes ["stroke_dasharray"]
    strokeLinecap := text "stroke_linecap"
    strokeLinejoin := text "stroke_linejoin"
    strokeOpacity := amount "stroke_opacity"
    margin := amount "margin"
    curvature := amount "curvature"
    tipSize := r.value? Reader.amount tipSpellings
    stemSize := r.value? Reader.amount stemSpellings }

def read (j : Json) : Except Refusal Shape :=
  readEntity fields ofRecord j

/-- The font, under the first spelling that is set. -/
def font (s : Shape) : Option String :=
  s.textFont.or s.fontFamily

def size (s : Shape) : Option Amount :=
  s.textSize.or s.fontSize

def weight (s : Shape) : Option Amount :=
  s.textWeight.or s.fontWeight

def textFill (s : Shape) : Option String :=
  s.textColor.or s.color

end Shape

end DeckPress
