import DeckPress.Drawing.Slide
import DeckPress.Style.Sheet

/-!
Decks as markup: a division with the deck's stylesheet and its slides. Drawing is a function of
the deck and the policy. There is nothing to draw for a deck that cannot be read, that has no
slides, or whose version is not supported.
-/

namespace DeckPress.Drawing

/-- Whether a version is supported. A deck without one is. -/
def supported (version : Option String) : Bool :=
  match version with
  | none | some "" => true
  | some version => "1.".toList.isPrefixOf version.toList

def tokensOf (policy : RenderPolicy) (deck : Deck) : Tokens :=
  { colors := deck.palette, fonts := deck.fontTable, enabled := policy.tokenResolution }

def drawSlides (policy : RenderPolicy) (deck : Deck) (slides : List Json) :
    Trace NumberError (List Markup) := do
  let drawn ← slides.mapM (slide? policy (tokensOf policy deck) deck)
  return drawn.filterMap fun found => found

def fragment (policy : RenderPolicy) (deck : Deck) (slides : List Markup) : Markup :=
  Markup.division policy.deckClass.text [⟨.deckId, deck.id.getD ""⟩]
    (.text "\n  " :: .style (Style.sheet policy.deckClass deck) :: .text "\n  " :: slides ++
      [.text "\n"])

def deck? (policy : RenderPolicy) (deck : Deck) : Trace NumberError (Option Markup) :=
  match deck.slides with
  | none => pure none
  | some slides =>
    if policy.checkVersion && !supported deck.version then do
      Trace.report .warning ("Unsupported deck version " ++ Text.quoted? deck.version ++
        "; nothing rendered")
      return none
    else do
      let drawn ← drawSlides policy deck slides
      return some (fragment policy deck drawn)

def document? (policy : RenderPolicy) (document : Json) : Trace NumberError (Option Markup) := do
  match ← Deck.readLeniently document with
  | none => return none
  | some deck => deck? policy deck

/-- The text of what was drawn, empty when there was nothing to draw. -/
def fragmentText (drawn : Option Markup) : String :=
  match drawn with
  | some markup => markup.render
  | none => ""

def render (policy : RenderPolicy) (document : Json) : Trace NumberError String := do
  return fragmentText (← document? policy document)

end DeckPress.Drawing
