import DeckPress.Entity.Deck
import DeckPress.Entity.Policy
import DeckPress.Style.Declaration

/-!
The stylesheet of a deck: twelve rules, each scoped to the deck's class. What the deck brings in
(size, font and background) loses the characters that could end a declaration, a rule or the
style element.
-/

namespace DeckPress.Style

/-- The characters that a value of a rule may not have. -/
def isUnsafe (c : Char) : Bool :=
  c == '<' || c == '>' || c == '\x7b' || c == '\x7d' || c == ';'

def safeText (value : Json) : String :=
  String.ofList (value.styleText.toList.filter fun c => !isUnsafe c)

structure Rule where
  selector : String
  declarations : Declarations

def Rule.text (r : Rule) : String :=
  "    " ++ r.selector ++ " \x7b " ++ Declarations.text r.declarations ++ " \x7d"

def fullBleed : Declarations :=
  [⟨"position", "absolute"⟩, ⟨"top", "0"⟩, ⟨"left", "0"⟩, ⟨"width", "100%"⟩, ⟨"height", "100%"⟩]

/-- An entry of a table, or a default when it is missing or does not count as set. -/
def entryOr (table : Record Json) (name default : String) : Json :=
  match table.get? name with
  | some value => if value.truthy then value else .str default
  | none => .str default

def rules (deckClass : ClassName) (deck : Deck) : List Rule :=
  let scope := "." ++ deckClass.text
  let unit := safeText (.str deck.slideSize.unit)
  [⟨scope ++ " *", [⟨"margin", "0"⟩, ⟨"padding", "0"⟩, ⟨"box-sizing", "border-box"⟩]⟩,
    ⟨scope,
      [⟨"font-family", safeText (entryOr deck.fontTable "body" "Arial") ++ ", sans-serif"⟩]⟩,
    ⟨scope ++ " .slide",
      [⟨"width", safeText deck.slideSize.w.toJson ++ unit⟩,
        ⟨"height", safeText deck.slideSize.h.toJson ++ unit⟩,
        ⟨"position", "relative"⟩, ⟨"overflow", "hidden"⟩, ⟨"isolation", "isolate"⟩,
        ⟨"background", safeText (entryOr deck.palette "bg" "#ffffff")⟩]⟩,
    ⟨scope ++ " .background", fullBleed⟩,
    ⟨scope ++ " .shape", [⟨"position", "absolute"⟩]⟩,
    ⟨scope ++ " .text-shape",
      [⟨"display", "flex"⟩, ⟨"align-items", "flex-start"⟩, ⟨"justify-content", "flex-start"⟩,
        ⟨"overflow-wrap", "break-word"⟩]⟩,
    ⟨scope ++ " .image-shape img",
      [⟨"width", "100%"⟩, ⟨"height", "100%"⟩, ⟨"object-fit", "contain"⟩]⟩,
    ⟨scope ++ " .list-shape", [⟨"display", "flex"⟩]⟩,
    ⟨scope ++ " .list-shape ul", [⟨"list-style", "none"⟩]⟩,
    ⟨scope ++ " .list-shape li", [⟨"margin-bottom", "0.5em"⟩]⟩,
    ⟨scope ++ " .svg-shape svg", fullBleed⟩,
    ⟨scope ++ " .svg-shape .text-shape",
      fullBleed ++ [⟨"align-items", "center"⟩, ⟨"justify-content", "center"⟩,
        ⟨"padding", "8px"⟩]⟩]

def sheet (deckClass : ClassName) (deck : Deck) : String :=
  "\n" ++ String.intercalate "\n" ((rules deckClass deck).map Rule.text) ++ "\n  "

end DeckPress.Style
