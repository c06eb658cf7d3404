import DeckPress.Entity.Shape
import DeckPress.Style.Declaration
import DeckPress.Theme

/-!
The declarations of a shape: its box, how its content is aligned, and its font. A measure that is
not set has a default; the height and opacity of a shape, and each declaration of its font, are
written only when set.
-/

namespace DeckPress.Style

/-- How content lies along the main axis. -/
def justifications : List (String × String) :=
  [("left", "flex-start"), ("center", "center"), ("right", "flex-end"),
    ("justify", "space-between")]

/-- How content lies across it. -/
def itemAlignments : List (String × String) :=
  [("top", "flex-start"), ("middle", "center"), ("bottom", "flex-end")]

/-- The value of a word, or of the default when the word is missing, empty or unknown. The default
has to be a known word. -/
def aligned? (values : List (String × String)) (word : Option String) (default : String) :
    Option String :=
  (Record.get? values default).map fun fallback =>
    match word with
    | none | some "" => fallback
    | some word => (Record.get? values word).getD fallback

/-- Words for the alignment of content, known to be ones. -/
inductive Horizontal where
  | left
  | center

inductive Vertical where
  | top
  | middle

def Horizontal.word : Horizontal → String
  | .left => "left"
  | .center => "center"

def Vertical.word : Vertical → String
  | .top => "top"
  | .middle => "middle"

/-- The alignment of content. Without a value, when a default is no known word, there is none. -/
def alignment? (horizontal vertical : Option String) (defaultH defaultV : String) :
    Option Declarations := do
  let justify ← aligned? justifications horizontal defaultH
  let align ← aligned? itemAlignments vertical defaultV
  return [⟨"justify-content", justify⟩, ⟨"align-items", align⟩]

def alignment (s : Shape) (horizontal : Horizontal) (vertical : Vertical) : Declarations :=
  (alignment? s.textAlign s.textValign horizontal.word vertical.word).getD []

def measure (amount : Option Amount) (default : String) : String :=
  match amount with
  | some a => a.styleText
  | none => default

/-- Position and size, then height and opacity. -/
def box (s : Shape) : Declarations :=
  let unit := s.unit.getD "%"
  [⟨"left", measure s.x "0" ++ unit⟩, ⟨"top", measure s.y "0" ++ unit⟩,
    ⟨"width", measure s.w "100" ++ unit⟩, ⟨"height", measure s.h "100" ++ unit⟩] ++
    s.z.toList.map (fun z => ⟨"z-index", z.styleText⟩) ++
    s.opacity.toList.map (fun o => ⟨"opacity", o.styleText⟩)

/-- A text that is there and not empty. -/
def filled (s : Option String) : List String :=
  s.toList.filter (· ≠ "")

/-- A number that is there and not the empty text. -/
def setAmount (a : Option Amount) : List Amount :=
  a.toList.filter fun
    | .text "" => false
    | _ => true

def font (tokens : Tokens) (s : Shape) : Declarations :=
  (filled s.font).map (fun f => ⟨"font-family", (tokens.font (.str f)).styleText⟩) ++
    (setAmount s.size).map (fun a => ⟨"font-size", a.styleText ++ "px"⟩) ++
    (setAmount s.weight).map (fun a => ⟨"font-weight", a.styleText⟩) ++
    (filled s.textFill).map (fun c => ⟨"color", (tokens.color (.str c)).styleText⟩) ++
    (filled s.textAlign).map (fun a => ⟨"text-align", a⟩) ++
    (setAmount s.lineHeight).map (fun a => ⟨"line-height", a.styleText⟩)

end DeckPress.Style
