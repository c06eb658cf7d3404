import DeckPress.Entity.Field
import DeckPress.Trace

/-!
Decks and what they are made of: slides, the layouts and masters that slides refer to, the size of
a slide, and the theme. A deck is read leniently: a field at fault counts as absent, except for
the slides themselves.
-/

namespace DeckPress

structure SlideSize where
  w : Amount
  h : Amount
  unit : String

namespace SlideSize

def fields : List Field :=
  [.may ["w"] Reader.amount, .may ["h"] Reader.amount, .may ["unit"] Reader.text]

def ofRecord (r : Record Json) : SlideSize :=
  { w := (r.value? Reader.amount ["w"]).getD (.int 1280)
    h := (r.value? Reader.amount ["h"]).getD (.int 720)
    unit := (r.value? Reader.text ["unit"]).getD "px" }

def read (j : Json) : Except Refusal SlideSize :=
  readEntity fields ofRecord j

end SlideSize

structure Theme where
  colors : Record Json
  fonts : Record Json

namespace Theme

def fields : List Field :=
  [.may ["colors"] Reader.table, .may ["fonts"] Reader.table]

def ofRecord (r : Record Json) : Theme :=
  { colors := (r.value? Reader.table ["colors"]).getD []
    fonts := (r.value? Reader.table ["fonts"]).getD [] }

def read (j : Json) : Except Refusal Theme :=
  readEntity fields ofRecord j

end Theme

structure Layout where
  id : Option String
  name : Option String
  bg : Option (Record Json)
  shapes : Option Collection

namespace Layout

def fields : List Field :=
  [.may ["id"] Reader.text, .may ["name"] Reader.text, .may ["bg"] Reader.table,
    .may ["shapes"] Reader.collection]

def ofRecord (r : Record Json) : Layout :=
  { id := r.value? Reader.text ["id"]
    name := r.value? Reader.text ["name"]
    bg := r.value? Reader.table ["bg"]
    shapes := r.value? Reader.collection ["shapes"] }

def read (j : Json) : Except Refusal Layout :=
  readEntity fields ofRecord j

end Layout

structure Master where
  id : Option String
  name : Option String
  bg : Option (Record Json)
  shapes : Option Collection
  layouts : List Json

namespace Master

def fields : List Field :=
  [.may ["id"] Reader.text, .may ["name"] Reader.text, .may ["bg"] Reader.table,
    .may ["shapes"] Reader.collection, .may ["layouts"] Reader.list]

def ofRecord (r : Record Json) : Master :=
  { id := r.value? Reader.text ["id"]
    name := r.value? Reader.text ["name"]
    bg := r.value? Reader.table ["bg"]
    shapes := r.value? Reader.collection ["shapes"]
    layouts := (r.value? Reader.list ["layouts"]).getD [] }

def read (j : Json) : Except Refusal Master :=
  readEntity fields ofRecord j

end Master

structure Slide where
  id : Option String
  layout : Option String
  master : Option String
  bg : Option (Record Json)
  shapes : Option Collection
  /-- The values of placeholders. -/
  values : Record Json
  overrides : List Json

namespace Slide

def fields : List Field :=
  [.may ["id"] Reader.text, .may ["layout"] Reader.text, .may ["master"] Reader.text,
    .may ["bg"] Reader.table, .may ["shapes"] Reader.collection, .may ["meta"] Reader.table,
    .may ["overrides"] Reader.list]

def ofRecord (r : Record Json) : Slide :=
  { id := r.value? Reader.text ["id"]
    layout := r.value? Reader.text ["layout"]
    master := r.value? Reader.text ["master"]
    bg := r.value? Reader.table ["bg"]
    shapes := r.value? Reader.collection ["shapes"]
    values := (r.value? Reader.table ["meta"]).getD []
    overrides := (r.value? Reader.list ["overrides"]).getD [] }

def read (j : Json) : Except Refusal Slide :=
  readEntity fields ofRecord j

end Slide

structure Deck where
  id : Option String
  version : Option String
  slideSize : SlideSize
  colors : Record Json
  fonts : Record Json
  theme : Theme
  layouts : Option Collection
  masters : List Json
  shapes : Option Collection
  bg : Option (Record Json)
  slides : Option (List Json)

namespace Deck

def fields : List Field :=
  [.may ["id"] Reader.text, .may ["version"] Reader.text,
    .may ["slide_size"] (Reader.entity SlideSize.read),
    .may ["colors"] Reader.table, .may ["fonts"] Reader.table,
    .may ["theme"] (Reader.entity Theme.read),
    .may ["layouts"] Reader.collection, .may ["masters"] Reader.list,
    .may ["shapes"] Reader.collection, .may ["bg"] Reader.table, .may ["slides"] Reader.list]

def ofRecord (r : Record Json) : Deck :=
  { id := r.value? Reader.text ["id"]
    version := r.value? Reader.text ["version"]
    slideSize := (r.value? (Reader.entity SlideSize.read) ["slide_size"]).getD
      (SlideSize.ofRecord [])
    colors := (r.value? Reader.table ["colors"]).getD []
    fonts := (r.value? Reader.table ["fonts"]).getD []
    theme := (r.value? (Reader.entity Theme.read) ["theme"]).getD (Theme.ofRecord [])
    layouts := r.value? Reader.collection ["layouts"]
    masters := (r.value? Reader.list ["masters"]).getD []
    shapes := r.value? Reader.collection ["shapes"]
    bg := r.value? Reader.table ["bg"]
    slides := r.value? Reader.list ["slides"] }

def read (j : Json) : Except Refusal Deck :=
  readEntity fields ofRecord j

/-- The colours by name; those of the deck itself win over those of its theme. -/
def palette (d : Deck) : Record Json :=
  Record.overlay d.theme.colors d.colors

def fontTable (d : Deck) : Record Json :=
  Record.overlay d.theme.fonts d.fonts

def sortedNames (names : List String) : List String :=
  names.mergeSort fun a b => !(b < a)

/-- Reads a deck. Fields at fault are dropped and the rest is read again; slides that are no list
leave nothing to read, and so does a value that is no record. -/
def readLeniently {ε : Type} : Json → Trace ε (Option Deck)
  | .obj entries =>
    match read (.obj entries) with
    | .ok deck => pure (some deck)
    | .error refusal => do
      let invalid := refusal.names
      if invalid.isEmpty || invalid.contains "slides" then
        Trace.report .warning "Unreadable deck: slides are missing or invalid"
        return none
      Trace.report .warning
        ("Ignoring invalid deck field(s): " ++ String.intercalate ", " (sortedNames invalid))
      match read (.obj (entries.filter fun entry => !invalid.contains entry.1)) with
      | .ok deck => return some deck
      | .error again =>
        Trace.report .warning
          ("Unreadable deck: " ++ toString again.count ++ " invalid field(s)")
        return none
  | _ => pure none

end Deck

end DeckPress
