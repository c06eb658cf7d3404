import DeckPress.Text.Escape

/-!
Markup as a tree. Tags and attribute names come from closed lists, and text and attribute values
are escaped where they are written, which happens here and nowhere else. The one text written as
it stands is that of a style element.
-/

namespace DeckPress

inductive Tag where
  | div
  | ul
  | li
  | svg
  deriving DecidableEq, Repr

def Tag.name : Tag → String
  | .div => "div"
  | .ul => "ul"
  | .li => "li"
  | .svg => "svg"

inductive AttributeName where
  | classes
  | deckId
  | slideId
  | shapeId
  | shapeType
  | style
  | source
  | alternative
  | viewBox
  | aspectRatio
  | pathData
  | fill
  | stroke
  | strokeWidth
  | strokeOpacity
  | strokeLinecap
  | strokeLinejoin
  | strokeDashes
  deriving DecidableEq, Repr

def AttributeName.text : AttributeName → String
  | .classes => "class"
  | .deckId => "data-deck-id"
  | .slideId => "data-slide-id"
  | .shapeId => "data-shape-id"
  | .shapeType => "data-shape-type"
  | .style => "style"
  | .source => "src"
  | .alternative => "alt"
  | .viewBox => "viewBox"
  | .aspectRatio => "preserveAspectRatio"
  | .pathData => "d"
  | .fill => "fill"
  | .stroke => "stroke"
  | .strokeWidth => "stroke-width"
  | .strokeOpacity => "stroke-opacity"
  | .strokeLinecap => "stroke-linecap"
  | .strokeLinejoin => "stroke-linejoin"
  | .strokeDashes => "stroke-dasharray"

structure Attribute where
  name : AttributeName
  value : String
  deriving DecidableEq, Repr

inductive Markup where
  | text (s : String)
  /-- A style element and its rules. -/
  | style (rules : String)
  | element (tag : Tag) (attributes : List Attribute) (children : List Markup)
  /-- An image, which has no content and no end tag. -/
  | image (attributes : List Attribute)
  /-- A path, which is closed in its tag. -/
  | path (attributes : List Attribute)

/-- An attribute as it is written, without the space before it. -/
def Attribute.chars (a : Attribute) : List Char :=
  a.name.text.toList ++ "=\"".toList ++ Text.escapeChars a.value.toList ++ ['"']

def Attribute.render (a : Attribute) : String :=
  String.ofList a.chars

namespace Markup

def tagChars (name : String) (attributes : List Attribute) : List Char :=
  name.toList ++ attributes.flatMap fun a => ' ' :: a.chars

mutual

def chars : Markup → List Char
  | .text s => Text.escapeChars s.toList
  | .style rules => "<style>".toList ++ rules.toList ++ "</style>".toList
  | .element tag attributes children =>
    '<' :: tagChars tag.name attributes ++ '>' :: childrenChars children ++
      "</".toList ++ tag.name.toList ++ ['>']
  | .image attributes => '<' :: tagChars "img" attributes ++ ['>']
  | .path attributes => '<' :: tagChars "path" attributes ++ "/>".toList

def childrenChars : List Markup → List Char
  | [] => []
  | child :: rest => chars child ++ childrenChars rest

end

def render (m : Markup) : String :=
  String.ofList m.chars

def division (classes : String) (attributes : List Attribute) (children : List Markup) : Markup :=
  .element .div (⟨.classes, classes⟩ :: attributes) children

theorem chars_text (s : String) : (text s).chars = Text.escapeChars s.toList := rfl

theorem chars_style (rules : String) :
    (style rules).chars = "<style>".toList ++ rules.toList ++ "</style>".toList := rfl

theorem chars_element (tag : Tag) (attributes : List Attribute) (children : List Markup) :
    (element tag attributes children).chars = '<' :: tagChars tag.name attributes ++
      '>' :: childrenChars children ++ "</".toList ++ tag.name.toList ++ ['>'] := rfl

theorem chars_image (attributes : List Attribute) :
    (image attributes).chars = '<' :: tagChars "img" attributes ++ ['>'] := rfl

theorem chars_path (attributes : List Attribute) :
    (path attributes).chars = '<' :: tagChars "path" attributes ++ "/>".toList := rfl

theorem childrenChars_append (xs ys : List Markup) :
    childrenChars (xs ++ ys) = childrenChars xs ++ childrenChars ys := by
  induction xs with
  | nil => simp [childrenChars]
  | cons x rest ih => simp [childrenChars, ih]

end Markup

end DeckPress
