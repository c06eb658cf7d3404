import DeckPress.Entity.Field

/-!
Backgrounds: a colour, an image and how it fits, and whether a layout's background takes in its
master's.
-/

namespace DeckPress

structure Background where
  fill : Option String
  image : Option String
  imageFit : Option String
  inherit : Bool

namespace Background

def fields : List Field :=
  [.may ["fill"] Reader.text, .may ["image"] Reader.text, .may ["image_fit"] Reader.text,
    .may ["inherit"] Reader.flag]

def ofRecord (r : Record Json) : Background :=
  { fill := r.value? Reader.text ["fill"]
    image := r.value? Reader.text ["image"]
    imageFit := r.value? Reader.text ["image_fit"]
    inherit := (r.value? Reader.flag ["inherit"]).getD false }

def read (j : Json) : Except Refusal Background :=
  readEntity fields ofRecord j

def isEmpty (b : Background) : Bool :=
  b.fill.getD "" == "" && b.image.getD "" == ""

end Background

end DeckPress
