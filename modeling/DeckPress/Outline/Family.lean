/-!
Outlines of the shape families inside a box of width `w` and height `h`. The builders are written
for any kind of number: they run on doubles and are reasoned about on rationals. Every family is
one closed contour.
-/

namespace DeckPress

structure Point (α : Type) where
  x : α
  y : α
  deriving DecidableEq, Repr

/-- The measures that families share: distance from the box, radius of corners, depth of a tip and
thickness of a stem. -/
structure Measures (α : Type) where
  margin : α
  curvature : α
  tip : α
  stem : α

/-- One step of a contour. Points are absolute. -/
inductive Segment (α : Type) where
  | move (target : Point α)
  | line (target : Point α)
  /-- A quadratic curve with its control point. -/
  | quad (control target : Point α)
  /-- An arc of an ellipse; its axes are turned by `rotation` degrees. -/
  | arc (rx ry rotation : α) (large sweep : Bool) (target : Point α)
  | close

inductive Family where
  | rectangle
  | roundedRectangle
  | ellipse
  | arrowRight
  | arrowLeft
  | arrowUp
  | arrowDown
  | diamond
  | triangle
  | hexagon
  | pentagon
  | chevron
  | chevronStart
  | speechBubble
  deriving DecidableEq, Repr

namespace Family

def all : List Family :=
  [rectangle, roundedRectangle, ellipse, arrowRight, arrowLeft, arrowUp, arrowDown, diamond,
    triangle, hexagon, pentagon, chevron, chevronStart, speechBubble]

def name : Family → String
  | rectangle => "rectangle"
  | roundedRectangle => "rounded-rectangle"
  | ellipse => "ellipse"
  | arrowRight => "arrow-right"
  | arrowLeft => "arrow-left"
  | arrowUp => "arrow-up"
  | arrowDown => "arrow-down"
  | diamond => "diamond"
  | triangle => "triangle"
  | hexagon => "hexagon"
  | pentagon => "pentagon"
  | chevron => "chevron"
  | chevronStart => "chevron-start"
  | speechBubble => "speech-bubble"

def ofName? (s : String) : Option Family :=
  all.find? fun family => family.name = s

end Family

namespace Outline

variable {α : Type} [Add α] [Sub α] [Mul α] [Div α] [OfScientific α] [LT α] [DecidableLT α]

/-- The second number if it is below the first, else the first. -/
def lesser (a b : α) : α :=
  if b < a then b else a

def polygon : List (Point α) → List (Segment α)
  | [] => []
  | first :: rest => .move first :: rest.map .line ++ [.close]

def rectangle (w h : α) (p : Measures α) : List (Point α) :=
  let m := p.margin
  [⟨m, m⟩, ⟨w - m, m⟩, ⟨w - m, h - m⟩, ⟨m, h - m⟩]

def arrowRight (w h : α) (p : Measures α) : List (Point α) :=
  let m := p.margin
  let t := p.tip
  let s := p.stem
  [⟨m, h / 2.0 - s / 2.0⟩, ⟨w - t, h / 2.0 - s / 2.0⟩, ⟨w - t, m⟩, ⟨w - m, h / 2.0⟩,
    ⟨w - t, h - m⟩, ⟨w - t, h / 2.0 + s / 2.0⟩, ⟨m, h / 2.0 + s / 2.0⟩]

def arrowLeft (w h : α) (p : Measures α) : List (Point α) :=
  let m := p.margin
  let t := p.tip
  let s := p.stem
  [⟨w - m, h / 2.0 - s / 2.0⟩, ⟨t, h / 2.0 - s / 2.0⟩, ⟨t, m⟩, ⟨m, h / 2.0⟩, ⟨t, h - m⟩,
    ⟨t, h / 2.0 + s / 2.0⟩, ⟨w - m, h / 2.0 + s / 2.0⟩]

/-- The apex is at the top edge, where y is the margin. -/
def arrowUp (w h : α) (p : Measures α) : List (Point α) :=
  let m := p.margin
  let t := p.tip
  let s := p.stem
  [⟨w / 2.0 - s / 2.0, h - m⟩, ⟨w / 2.0 + s / 2.0, h - m⟩, ⟨w / 2.0 + s / 2.0, t⟩, ⟨w - m, t⟩,
    ⟨w / 2.0, m⟩, ⟨m, t⟩, ⟨w / 2.0 - s / 2.0, t⟩]

def arrowDown (w h : α) (p : Measures α) : List (Point α) :=
  let m := p.margin
  let t := p.tip
  let s := p.stem
  [⟨w / 2.0 - s / 2.0, m⟩, ⟨w / 2.0 + s / 2.0, m⟩, ⟨w / 2.0 + s / 2.0, h - t⟩, ⟨w - m, h - t⟩,
    ⟨w / 2.0, h - m⟩, ⟨m, h - t⟩, ⟨w / 2.0 - s / 2.0, h - t⟩]

def diamond (w h : α) (p : Measures α) : List (Point α) :=
  let m := p.margin
  [⟨w / 2.0, m⟩, ⟨w - m, h / 2.0⟩, ⟨w / 2.0, h - m⟩, ⟨m, h / 2.0⟩]

def triangle (w h : α) (p : Measures α) : List (Point α) :=
  let m := p.margin
  [⟨w / 2.0, m⟩, ⟨w - m, h - m⟩, ⟨m, h - m⟩]

def hexagon (w h : α) (p : Measures α) : List (Point α) :=
  let m := p.margin
  let inset := (w - 2.0 * m) * 0.25
  [⟨m + inset, m⟩, ⟨w - m - inset, m⟩, ⟨w - m, h / 2.0⟩, ⟨w - m - inset, h - m⟩,
    ⟨m + inset, h - m⟩, ⟨m, h / 2.0⟩]

def pentagon (w h : α) (p : Measures α) : List (Point α) :=
  let m := p.margin
  [⟨w / 2.0, m⟩, ⟨w - m, h * 0.38⟩, ⟨w - m * 2.0, h - m⟩, ⟨m * 2.0, h - m⟩, ⟨m, h * 0.38⟩]

/-- The depth of a chevron's notch, held back so that the outline does not cross itself. -/
def chevronTip (w : α) (p : Measures α) : α :=
  lesser p.tip (w - 2.0 * p.margin - 1.0)

def chevron (w h : α) (p : Measures α) : List (Point α) :=
  let m := p.margin
  let t := chevronTip w p
  [⟨m, m⟩, ⟨w - t - m, m⟩, ⟨w - m, h / 2.0⟩, ⟨w - t - m, h - m⟩, ⟨m, h - m⟩, ⟨m + t, h / 2.0⟩]

def chevronStart (w h : α) (p : Measures α) : List (Point α) :=
  let m := p.margin
  let t := chevronTip w p
  [⟨m, m⟩, ⟨w - t - m, m⟩, ⟨w - m, h / 2.0⟩, ⟨w - t - m, h - m⟩, ⟨m, h - m⟩]

def roundedRectangle (w h : α) (p : Measures α) : List (Segment α) :=
  let m := p.margin
  let c := p.curvature
  [.move ⟨m + c, m⟩,
    .line ⟨w - m - c, m⟩, .quad ⟨w - m, m⟩ ⟨w - m, m + c⟩,
    .line ⟨w - m, h - m - c⟩, .quad ⟨w - m, h - m⟩ ⟨w - m - c, h - m⟩,
    .line ⟨m + c, h - m⟩, .quad ⟨m, h - m⟩ ⟨m, h - m - c⟩,
    .line ⟨m, m + c⟩, .quad ⟨m, m⟩ ⟨m + c, m⟩,
    .close]

/-- One arc that ends just short of its start: an arc with equal ends would not be drawn. -/
def ellipse (w h : α) (p : Measures α) : List (Segment α) :=
  let m := p.margin
  [.move ⟨w / 2.0, m⟩, .arc (w / 2.0 - m) (h / 2.0 - m) 0.0 true true ⟨w / 2.0 - 0.1, m⟩, .close]

/-- The height of a speech bubble's tail, held back so that the body keeps its inside. -/
def bubbleTip (h : α) (p : Measures α) : α :=
  lesser p.tip (h - 2.0 * p.margin - 1.0)

/-- A rounded body; the tail stands on its bottom edge between 0.2 and 0.3 of the width, with its
apex at 0.25. -/
def speechBubble (w h : α) (p : Measures α) : List (Segment α) :=
  let m := p.margin
  let c := p.curvature
  let bottom := h - m - bubbleTip h p
  [.move ⟨m + c, m⟩,
    .line ⟨w - m - c, m⟩, .quad ⟨w - m, m⟩ ⟨w - m, m + c⟩,
    .line ⟨w - m, bottom - c⟩, .quad ⟨w - m, bottom⟩ ⟨w - m - c, bottom⟩,
    .line ⟨w * 0.3, bottom⟩, .line ⟨w * 0.25, h - m⟩, .line ⟨w * 0.2, bottom⟩,
    .line ⟨m + c, bottom⟩, .quad ⟨m, bottom⟩ ⟨m, bottom - c⟩,
    .line ⟨m, m + c⟩, .quad ⟨m, m⟩ ⟨m + c, m⟩,
    .close]

def build (family : Family) (w h : α) (p : Measures α) : List (Segment α) :=
  match family with
  | .rectangle => polygon (rectangle w h p)
  | .roundedRectangle => roundedRectangle w h p
  | .ellipse => ellipse w h p
  | .arrowRight => polygon (arrowRight w h p)
  | .arrowLeft => polygon (arrowLeft w h p)
  | .arrowUp => polygon (arrowUp w h p)
  | .arrowDown => polygon (arrowDown w h p)
  | .diamond => polygon (diamond w h p)
  | .triangle => polygon (triangle w h p)
  | .hexagon => polygon (hexagon w h p)
  | .pentagon => polygon (pentagon w h p)
  | .chevron => polygon (chevron w h p)
  | .chevronStart => polygon (chevronStart w h p)
  | .speechBubble => speechBubble w h p

/-- The margin of a shape that sets none: a fraction of the shorter side, or nothing. -/
def defaultMargin [BEq α] (w h ratio : α) : α :=
  if ratio == 0.0 then 0.0 else lesser w h * ratio

end Outline

end DeckPress
