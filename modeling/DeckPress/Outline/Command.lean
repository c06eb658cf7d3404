import DeckPress.Entity.Field
import DeckPress.Outline.Family

/-!
Path commands and their text. A command has the letter of the path grammar and those numbers that
are set; commands that come from a contour have all that their letter needs.
-/

namespace DeckPress

inductive Letter where
  | moveTo
  | lineTo
  | quadTo
  | arcTo
  | close
  deriving DecidableEq, Repr

namespace Letter

def text : Letter → String
  | moveTo => "M"
  | lineTo => "L"
  | quadTo => "Q"
  | arcTo => "A"
  | close => "Z"

def meanings : List (String × Letter) :=
  [moveTo, lineTo, quadTo, arcTo, close].map fun letter => (letter.text, letter)

end Letter

structure PathCommand where
  letter : Letter
  x : Option Float := none
  y : Option Float := none
  /-- The control point of a curve. -/
  x1 : Option Float := none
  y1 : Option Float := none
  /-- The radii of an arc. -/
  rx : Option Float := none
  ry : Option Float := none
  rotation : Float := 0.0
  largeArc : Bool := false
  sweep : Bool := false

namespace PathCommand

def fields : List Field :=
  let number (name : String) := Field.may [name] (Reader.optional Reader.double)
  [.must "type" (Reader.word Letter.meanings), number "x", number "y", number "x1", number "y1",
    number "rx", number "ry", .may ["rotation"] Reader.double, .may ["large_arc"] Reader.flag,
    .may ["sweep"] Reader.flag]

def ofRecord (r : Record Json) : PathCommand :=
  let number (name : String) := (r.value? (Reader.optional Reader.double) [name]).join
  { letter := (r.value? (Reader.word Letter.meanings) ["type"]).getD .close
    x := number "x"
    y := number "y"
    x1 := number "x1"
    y1 := number "y1"
    rx := number "rx"
    ry := number "ry"
    rotation := (r.value? Reader.double ["rotation"]).getD 0.0
    largeArc := (r.value? Reader.flag ["large_arc"]).getD false
    sweep := (r.value? Reader.flag ["sweep"]).getD false }

/-- Reads a command. Null is a value here, and only the coordinates take it. -/
def read : Json → Except Refusal PathCommand
  | .obj entries => Field.build fields ofRecord entries
  | _ => .error .notRecord

def ofSegment : Segment Float → PathCommand
  | .move target => { letter := .moveTo, x := some target.x, y := some target.y }
  | .line target => { letter := .lineTo, x := some target.x, y := some target.y }
  | .quad control target =>
    { letter := .quadTo, x1 := some control.x, y1 := some control.y, x := some target.x
      y := some target.y }
  | .arc rx ry rotation large sweep target =>
    { letter := .arcTo, rx := some rx, ry := some ry, rotation, largeArc := large, sweep
      x := some target.x, y := some target.y }
  | .close => { letter := .close }

/-- A number that is set, or the word for one that is not. -/
def numberText : Option Float → String
  | some x => Json.floatStyleText x
  | none => "None"

def flagText (b : Bool) : String :=
  if b then "1" else "0"

/-- The texts behind a command's letter. -/
def operands (c : PathCommand) : List String :=
  match c.letter with
  | .close => []
  | .quadTo => [c.x1, c.y1, c.x, c.y].map numberText
  | .arcTo =>
    [numberText c.rx, numberText c.ry, Json.floatStyleText c.rotation, flagText c.largeArc,
      flagText c.sweep, numberText c.x, numberText c.y]
  | _ => [c.x, c.y].map numberText

/-- A command: its letter, then its numbers with a space between them. -/
def text (c : PathCommand) : String :=
  c.letter.text ++ String.intercalate " " c.operands

def pathText (commands : List PathCommand) : String :=
  String.intercalate " " (commands.map text)

end PathCommand

def Family.commands (family : Family) (w h : Float) (p : Measures Float) : List PathCommand :=
  (Outline.build family w h p).map PathCommand.ofSegment

end DeckPress
