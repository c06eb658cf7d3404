import DeckPress.Entity.Background
import DeckPress.Style.Declaration

/-!
The declarations of a background: its colour, and its image with the way it fits.
-/

namespace DeckPress.Style

/-- The address of an image inside single quotes. A quote in it would end the text early and is
written as its percent code. -/
def imageUrl (image : String) : String :=
  "url('" ++ String.ofList (Text.replaceChar '\'' "%27".toList image.toList) ++ "')"

def background (b : Background) : Declarations :=
  let fill := b.fill.getD ""
  let image := b.image.getD ""
  let fit := b.imageFit.getD ""
  (if fill = "" then [] else [⟨"background-color", fill⟩]) ++
    (if image = "" then [] else
      [⟨"background-image", imageUrl image⟩,
        ⟨"background-size", if fit = "" then "cover" else fit⟩,
        ⟨"background-position", "center"⟩,
        ⟨"background-repeat", "no-repeat"⟩])

end DeckPress.Style
