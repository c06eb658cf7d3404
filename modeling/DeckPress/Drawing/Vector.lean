import DeckPress.Entity.Shape
import DeckPress.Json.Number
import DeckPress.Markup.Tree
import DeckPress.Outline.Command
import DeckPress.Theme

/-!
Vector shapes: the outline of a family in a view box of the shape's own size, with its fill and
stroke. The details of a stroke are written only when one is drawn.
-/

namespace DeckPress.Drawing

def amountOr (amount : Option Amount) (default : Float) : Except NumberError Float :=
  match amount with
  | some a => a.toJson.toFloat default
  | none => .ok default

def measures (s : Shape) (w h ratio : Float) : Except NumberError (Measures Float) := do
  return {
    margin := ← amountOr s.margin (Outline.defaultMargin w h ratio)
    curvature := ← amountOr s.curvature 10.0
    tip := ← amountOr s.tipSize 20.0
    stem := ← amountOr s.stemSize 40.0 }

/-- A text, or its default when it is missing or empty. -/
def textOr (s : Option String) (default : String) : String :=
  match s with
  | none | some "" => default
  | some s => s

def strokeColor (tokens : Tokens) (s : Shape) : Json :=
  tokens.color (.str (textOr s.stroke "none"))

def isNone : Json → Bool
  | .str s => s == "none"
  | _ => false

/-- Whether a stroke is drawn: its colour is not none, and its width is above nought. -/
def drawsStroke (tokens : Tokens) (s : Shape) : Except NumberError Bool := do
  if isNone (strokeColor tokens s) then return false
  let width ← amountOr s.strokeWidth 0.0
  return decide (0.0 < width)

def strokeDetails (s : Shape) : List Attribute :=
  [⟨.strokeOpacity, ((s.strokeOpacity.getD (.int 1)).styleText)⟩,
    ⟨.strokeLinecap, textOr s.strokeLinecap "butt"⟩,
    ⟨.strokeLinejoin, textOr s.strokeLinejoin "miter"⟩] ++
    (s.strokeDashes.toList.filter fun dashes => !dashes.isEmpty).map fun dashes =>
      ⟨.strokeDashes, dashes.toJson.styleText⟩

def strokeAttributes (tokens : Tokens) (s : Shape) : Except NumberError (List Attribute) := do
  let drawn ← drawsStroke tokens s
  return [⟨.stroke, (strokeColor tokens s).plainText⟩,
    ⟨.strokeWidth, (s.strokeWidth.getD (.int 0)).styleText⟩] ++
    if drawn then strokeDetails s else []

/-- The picture of a vector shape; none for a family without an outline. -/
def svg? (tokens : Tokens) (ratio : Float) (s : Shape) (family : String) :
    Except NumberError (Option Markup) := do
  let w ← amountOr s.w 100.0
  let h ← amountOr s.h 100.0
  let p ← measures s w h ratio
  match Family.ofName? family with
  | none => return none
  | some family =>
    let stroke ← strokeAttributes tokens s
    let fill := tokens.color (.str (textOr s.fill "#2563eb"))
    let path : Markup := .path
      (⟨.pathData, PathCommand.pathText (family.commands w h p)⟩ ::
        ⟨.fill, fill.plainText⟩ :: stroke)
    let viewBox := "0 0 " ++ Json.floatStyleText w ++ " " ++ Json.floatStyleText h
    return some (.element .svg [⟨.viewBox, viewBox⟩, ⟨.aspectRatio, "none"⟩]
      [.text "\n    ", path, .text "\n  "])

end DeckPress.Drawing
