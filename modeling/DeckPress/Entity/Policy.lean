import DeckPress.Entity.Field

/-!
Render policies: the switches of one render call. Decks come in two conventions. In the keyed one
layouts are looked up by key, colours and fonts may be tokens, the version is checked and a
background is part of its slide. In the mastered one layouts are found through a list of masters,
colours are literal, backgrounds are a layer, and untyped shapes are rectangles with a margin.
A policy that can be written down is valid: class name and margin carry the proof.
-/

namespace DeckPress

inductive LayoutLookup where
  | map
  | masterList
  deriving DecidableEq, Repr

namespace LayoutLookup

def name : LayoutLookup → String
  | .map => "map"
  | .masterList => "master_list"

def meanings : List (String × LayoutLookup) :=
  [(name .map, .map), (name .masterList, .masterList)]

end LayoutLookup

inductive BackgroundMode where
  | inline
  | layer
  deriving DecidableEq, Repr

namespace BackgroundMode

def name : BackgroundMode → String
  | .inline => "inline"
  | .layer => "layer"

def meanings : List (String × BackgroundMode) :=
  [(name .inline, .inline), (name .layer, .layer)]

end BackgroundMode

def isClassStart (c : Char) : Bool :=
  c.isAlpha || c == '_'

def isClassPart (c : Char) : Bool :=
  isClassStart c || c.isDigit || c == '-'

/-- Whether a text is a class name. All its characters are ASCII. -/
def isClassName (s : String) : Bool :=
  match s.toList with
  | first :: rest => isClassStart first && rest.all isClassPart
  | [] => false

structure ClassName where
  text : String
  valid : isClassName text = true

def ClassName.default : ClassName :=
  { text := "slidemark-deck", valid := by decide }

def Reader.className : Reader ClassName
  | .str s => if h : isClassName s = true then .ok ⟨s, h⟩ else .error 1
  | _ => .error 1

/-- A margin as a fraction of the shorter side: not negative, and below one half. -/
structure MarginRatio where
  value : Float
  valid : 0.0 ≤ value ∧ value < 0.5

def Reader.marginRatio : Reader MarginRatio := fun j =>
  match Reader.double j with
  | .ok x => if h : 0.0 ≤ x ∧ x < 0.5 then .ok ⟨x, h⟩ else .error 1
  | .error n => .error n

structure RenderPolicy where
  layoutLookup : LayoutLookup := .map
  /-- Whether colours and fonts are looked up in the theme. -/
  tokenResolution : Bool := true
  deckClass : ClassName := .default
  /-- Whether a deck of another major version is refused. -/
  checkVersion : Bool := true
  backgroundMode : BackgroundMode := .inline
  /-- What shapes of a missing or unknown type are drawn as. -/
  fallbackFamily : Option String := none
  marginRatio : MarginRatio := ⟨0.0, by decide⟩

namespace RenderPolicy

def fields : List Field :=
  [.may ["layout_lookup"] (Reader.word LayoutLookup.meanings),
    .may ["token_resolution"] Reader.flag, .may ["deck_class"] Reader.className,
    .may ["check_version"] Reader.flag,
    .may ["background_mode"] (Reader.word BackgroundMode.meanings),
    .may ["fallback_family"] (Reader.optional Reader.onlyText),
    .may ["margin_ratio"] Reader.marginRatio]

def keyed : RenderPolicy := {}

def mastered : RenderPolicy :=
  { layoutLookup := .masterList
    tokenResolution := false
    checkVersion := false
    backgroundMode := .layer
    fallbackFamily := some "rectangle"
    marginRatio := ⟨0.1, by decide⟩ }

/-- A preset with some switches set by a record. Null is a value here, and no switch but the
fallback takes it. -/
def set (preset : RenderPolicy) (changes : Record Json) : Except Refusal RenderPolicy :=
  Field.build fields (fun r =>
    { layoutLookup := (r.value? (Reader.word LayoutLookup.meanings) ["layout_lookup"]).getD
        preset.layoutLookup
      tokenResolution := (r.value? Reader.flag ["token_resolution"]).getD preset.tokenResolution
      deckClass := (r.value? Reader.className ["deck_class"]).getD preset.deckClass
      checkVersion := (r.value? Reader.flag ["check_version"]).getD preset.checkVersion
      backgroundMode := (r.value? (Reader.word BackgroundMode.meanings) ["background_mode"]).getD
        preset.backgroundMode
      fallbackFamily := (r.value? (Reader.optional Reader.onlyText) ["fallback_family"]).getD
        preset.fallbackFamily
      marginRatio := (r.value? Reader.marginRatio ["margin_ratio"]).getD preset.marginRatio })
    changes

end RenderPolicy

end DeckPress
