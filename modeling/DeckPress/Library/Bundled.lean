import DeckPress.Json.Writer
import DeckPress.Library.Store

/-!
The decks that come with the program, and the directory that holds them as text.
-/

namespace DeckPress.Library.Bundled

def basicDeck : Json :=
  .obj [("id", .str "basic-deck"), ("version", .str "1.0.0"),
    ("slide_size", .obj [("w", .int 1280), ("h", .int 720), ("unit", .str "px")]),
    ("layouts", .obj [
      ("title-only", .obj [("name", .str "Title Only"), ("bg", .obj [("fill", .str "#ffffff")]),
        ("shapes", .obj [
          ("title", .obj [("id", .str "title"), ("type", .str "text"), ("x", .int 10),
            ("y", .int 30), ("w", .int 80), ("h", .int 20), ("unit", .str "%"),
            ("text_size", .int 48), ("text_align", .str "center"),
            ("text_valign", .str "middle")])])])]),
    ("slides", .arr [
      .obj [("id", .str "slide1"), ("layout", .str "title-only"),
        ("shapes", .obj [("title", .obj [("text", .str "Welcome!")])])]])]

def corporateDeck : Json :=
  .obj [("id", .str "corporate-deck"), ("version", .str "1.2.0"),
    ("colors", .obj [("bg", .str "#ffffff"), ("text", .str "#0f172a"), ("muted", .str "#64748b"),
      ("accent", .str "#2563eb")]),
    ("fonts", .obj [("body", .str "Inter"), ("heading", .str "Inter")]),
    ("shapes", .obj [
      ("footer", .obj [("id", .str "footer"), ("type", .str "text"),
        ("text", .str "\x7bcompany\x7d | \x7bdate\x7d"), ("x", .int 5), ("y", .int 92),
        ("w", .int 90), ("h", .int 6), ("z", .int 10), ("opacity", .float 0.8),
        ("text_size", .int 14), ("text_color", .str "muted"), ("text_valign", .str "middle")])]),
    ("layouts", .obj [
      ("title", .obj [("name", .str "Title"), ("bg", .obj [("fill", .str "#f8fafc")]),
        ("shapes", .obj [
          ("title", .obj [("id", .str "title"), ("type", .str "text"), ("x", .int 10),
            ("y", .int 35), ("w", .int 80), ("h", .int 15), ("z", .int 1),
            ("text_font", .str "heading"), ("text_size", .int 52), ("text_weight", .int 700),
            ("text_color", .str "text"), ("text_align", .str "center"),
            ("text_valign", .str "middle")]),
          ("subtitle", .obj [("id", .str "subtitle"), ("type", .str "text"), ("x", .int 10),
            ("y", .int 52), ("w", .int 80), ("h", .int 8), ("z", .int 1), ("text_size", .int 24),
            ("text_color", .str "muted"), ("text_align", .str "center")])])]),
      ("content", .obj [("name", .str "Title and Bullets"),
        ("shapes", .obj [
          ("heading", .obj [("id", .str "heading"), ("type", .str "text"), ("x", .int 5),
            ("y", .int 5), ("w", .int 90), ("h", .int 12), ("z", .int 1),
            ("text_font", .str "heading"), ("text_size", .int 40), ("text_weight", .int 700),
            ("text_color", .str "text")]),
          ("bullets", .obj [("id", .str "bullets"), ("type", .str "list"), ("x", .int 5),
            ("y", .int 20), ("w", .int 90), ("h", .int 65), ("z", .int 1), ("bullet", .str "•"),
            ("text_size", .int 24), ("line_height", .float 1.6),
            ("text_color", .str "text")])])])]),
    ("slides", .arr [
      .obj [("id", .str "title"), ("layout", .str "title"),
        ("meta", .obj [("company", .str "ACME Corp"), ("date", .str "December 2024")]),
        ("shapes", .obj [("title", .obj [("text", .str "Q4 Business Review")]),
          ("subtitle", .obj [("text", .str "Prepared for \x7bcompany\x7d")])])],
      .obj [("id", .str "content1"), ("layout", .str "content"),
        ("meta", .obj [("company", .str "ACME Corp"), ("date", .str "December 2024")]),
        ("bg", .obj [("fill", .str "#ffffff")]),
        ("shapes", .obj [("heading", .obj [("text", .str "Highlights")]),
          ("bullets", .obj [
            ("items", .arr [.str "Revenue growth of 23% YoY", .str "Expanded to 3 new markets",
              .str "Customer retention at 94%", .str "Launched 2 flagship products"])])])]])]

def imageDeck : Json :=
  .obj [("id", .str "image-deck"), ("version", .str "1.0.0"),
    ("bg", .obj [("image", .str "https://placehold.co/1280x720/e2e8f0/64748b?text=Background"),
      ("image_fit", .str "cover")]),
    ("layouts", .obj [
      ("photo", .obj [("name", .str "Photo with Caption"),
        ("shapes", .obj [
          ("photo", .obj [("id", .str "photo"), ("type", .str "image"), ("x", .int 10),
            ("y", .int 10), ("w", .int 80), ("h", .int 65), ("image_fit", .str "cover")]),
          ("caption", .obj [("id", .str "caption"), ("type", .str "text"), ("x", .int 10),
            ("y", .int 80), ("w", .int 80), ("h", .int 10), ("text_size", .int 28),
            ("text_align", .str "center")])])])]),
    ("slides", .arr [
      .obj [("id", .str "photo1"), ("layout", .str "photo"),
        ("shapes", .obj [
          ("photo", .obj [
            ("image_src", .str "https://placehold.co/600x400/10b981/ffffff?text=Product+Photo"),
            ("alt", .str "Product photo")]),
          ("caption", .obj [("text", .str "Our new product")])])],
      .obj [("id", .str "photo2"), ("layout", .str "photo"),
        ("bg", .obj [("fill", .str "#0f172a"), ("image", .null)]),
        ("shapes", .obj [
          ("photo", .obj [
            ("image_src", .str "https://placehold.co/600x400/6366f1/ffffff?text=Team+Photo"),
            ("alt", .str "The team"), ("image_fit", .str "contain")]),
          ("caption", .obj [("text", .str "The team behind it"),
            ("text_color", .str "#ffffff")])])]])]

def masterDeck : Json :=
  .obj [("id", .str "master-deck"),
    ("slide_size", .obj [("w", .int 960), ("h", .int 540), ("unit", .str "px")]),
    ("theme", .obj [("colors", .obj [("bg", .str "#f1f5f9")]),
      ("fonts", .obj [("body", .str "Georgia")])]),
    ("masters", .arr [
      .obj [("id", .str "brand"), ("name", .str "Brand Master"),
        ("bg", .obj [("fill", .str "#0f172a")]),
        ("shapes", .arr [
          .obj [("id", .str "band"), ("x", .int 0), ("y", .int 90), ("w", .int 100),
            ("h", .int 10), ("z", .int 0), ("fill", .str "#1e293b")],
          .obj [("id", .str "confidential"), ("type", .str "text"), ("text", .str "Confidential"),
            ("x", .int 75), ("y", .int 92), ("w", .int 22), ("h", .int 6), ("z", .int 1),
            ("font_size", .int 12), ("color", .str "#cbd5e1"), ("text_align", .str "right")]]),
        ("layouts", .arr [
          .obj [("id", .str "cover"), ("name", .str "Cover"),
            ("bg", .obj [("inherit", .bool true)]),
            ("shapes", .arr [
              .obj [("id", .str "title"), ("type", .str "text"), ("x", .int 8), ("y", .int 30),
                ("w", .int 84), ("h", .int 20), ("z", .int 2), ("font_family", .str "Georgia"),
                ("font_size", .int 44), ("font_weight", .int 700), ("color", .str "#f8fafc"),
                ("text_align", .str "center"), ("text_valign", .str "middle")],
              .obj [("id", .str "badge"), ("type", .str "hexagon"), ("x", .int 45),
                ("y", .int 55), ("w", .int 10), ("h", .int 14), ("z", .int 2),
                ("fill", .str "#38bdf8"), ("text", .str "v1"), ("color", .str "#0f172a")]])],
          .obj [("id", .str "agenda"), ("name", .str "Agenda"),
            ("bg", .obj [("fill", .str "#ffffff")]),
            ("shapes", .arr [
              .obj [("id", .str "title"), ("type", .str "text"), ("x", .int 6), ("y", .int 6),
                ("w", .int 88), ("h", .int 12), ("z", .int 2), ("font_size", .int 32),
                ("font_weight", .int 700), ("color", .str "#0f172a")],
              .obj [("id", .str "points"), ("type", .str "list"), ("x", .int 6), ("y", .int 22),
                ("w", .int 88), ("h", .int 60), ("z", .int 2), ("bullet", .str "-"),
                ("font_size", .int 20), ("line_height", .float 1.5),
                ("color", .str "#334155")]])]])]]),
    ("slides", .arr [
      .obj [("id", .str "cover"), ("master", .str "brand"), ("layout", .str "cover"),
        ("meta", .obj [("quarter", .str "Q3")]),
        ("shapes", .arr [.obj [("id", .str "title"), ("text", .str "Roadmap \x7bquarter\x7d")]])],
      .obj [("id", .str "agenda"), ("master", .str "brand"), ("layout", .str "agenda"),
        ("shapes", .arr [.obj [("id", .str "title"), ("text", .str "Agenda")],
          .obj [("id", .str "points"),
            ("items", .arr [.str "Where we are", .str "Where we are going",
              .str "Open questions"])]]),
        ("overrides", .arr [.obj [("shape", .str "band"), ("fill", .str "#2563eb")],
          .obj [("shape", .str "confidential"), ("text", .str "Internal")]])]])]

def minimalDeck : Json :=
  .obj [("id", .str "minimal-deck"), ("layouts", .obj [("blank", .obj [])]),
    ("slides", .arr [
      .obj [("id", .str "only"), ("layout", .str "blank"),
        ("shapes", .obj [("hello", .obj [("type", .str "text"), ("text", .str "Hello")])])]])]

def shapesDemo : Json :=
  .obj [("id", .str "shapes-demo"), ("version", .str "1.0.0"),
    ("colors", .obj [("bg", .str "#f8fafc"), ("primary", .str "#2563eb"),
      ("success", .str "#16a34a"), ("danger", .str "#dc2626"), ("warning", .str "#ca8a04"),
      ("label", .str "#ffffff")]), ("fonts", .obj [("body", .str "Helvetica")]),
    ("layouts", .obj [
      ("grid", .obj [("name", .str "Shape Grid"), ("bg", .obj [("fill", .str "#f8fafc")]),
        ("shapes", .obj [
          ("heading", .obj [("id", .str "heading"), ("type", .str "text"), ("x", .int 5),
            ("y", .int 4), ("w", .int 90), ("h", .int 10), ("text_size", .int 36),
            ("text_weight", .int 700)])])])]),
    ("slides", .arr [
      .obj [("id", .str "basic-shapes"), ("layout", .str "grid"),
        ("shapes", .obj [("heading", .obj [("text", .str "Basic shapes")]),
          ("rect", .obj [("type", .str "rectangle"), ("x", .int 5), ("y", .int 25),
            ("w", .int 25), ("h", .int 30), ("fill", .str "primary"), ("text", .str "Rectangle"),
            ("text_color", .str "label")]),
          ("rounded", .obj [("type", .str "rounded-rectangle"), ("x", .int 37), ("y", .int 25),
            ("w", .int 25), ("h", .int 30), ("curvature", .int 16), ("fill", .str "success"),
            ("text", .str "Rounded"), ("text_color", .str "label")]),
          ("oval", .obj [("type", .str "ellipse"), ("x", .int 69), ("y", .int 25), ("w", .int 25),
            ("h", .int 30), ("fill", .str "danger"), ("stroke", .str "warning"),
            ("stroke_width", .int 4), ("text", .str "Ellipse"), ("text_color", .str "label")])])],
      .obj [("id", .str "arrows"), ("layout", .str "grid"),
        ("shapes", .obj [("heading", .obj [("text", .str "Arrows")]),
          ("right", .obj [("type", .str "arrow-right"), ("x", .int 5), ("y", .int 25),
            ("w", .int 20), ("h", .int 20), ("fill", .str "primary"), ("tipSize", .int 30),
            ("stemSize", .int 50)]),
          ("left", .obj [("type", .str "arrow-left"), ("x", .int 28), ("y", .int 25),
            ("w", .int 20), ("h", .int 20), ("fill", .str "success")]),
          ("up", .obj [("type", .str "arrow-up"), ("x", .int 51), ("y", .int 25), ("w", .int 20),
            ("h", .int 20), ("fill", .str "danger")]),
          ("down", .obj [("type", .str "arrow-down"), ("x", .int 74), ("y", .int 25),
            ("w", .int 20), ("h", .int 20), ("fill", .str "#7c3aed"), ("stroke", .str "warning"),
            ("stroke_width", .int 2), ("stroke_dasharray", .str "6 3")])])],
      .obj [("id", .str "polygons"), ("layout", .str "grid"),
        ("shapes", .obj [("heading", .obj [("text", .str "Polygons")]),
          ("diamond", .obj [("type", .str "diamond"), ("x", .int 5), ("y", .int 25),
            ("w", .int 20), ("h", .int 30), ("fill", .str "primary")]),
          ("triangle", .obj [("type", .str "triangle"), ("x", .int 28), ("y", .int 25),
            ("w", .int 20), ("h", .int 30), ("fill", .str "success")]),
          ("hexagon", .obj [("type", .str "hexagon"), ("x", .int 51), ("y", .int 25),
            ("w", .int 20), ("h", .int 30), ("fill", .str "danger"), ("text", .str "Hex"),
            ("text_color", .str "label")]),
          ("pentagon", .obj [("type", .str "pentagon"), ("x", .int 74), ("y", .int 25),
            ("w", .int 20), ("h", .int 30), ("fill", .str "warning")])])],
      .obj [("id", .str "process"), ("layout", .str "grid"),
        ("shapes", .obj [("heading", .obj [("text", .str "Process and callouts")]),
          ("step1", .obj [("type", .str "chevron-start"), ("x", .int 5), ("y", .int 25),
            ("w", .int 28), ("h", .int 15), ("fill", .str "primary"), ("tipSize", .int 40),
            ("text", .str "Plan"), ("text_color", .str "label")]),
          ("step2", .obj [("type", .str "chevron"), ("x", .int 31), ("y", .int 25),
            ("w", .int 28), ("h", .int 15), ("fill", .str "success"), ("tipSize", .int 40),
            ("text", .str "Build"), ("text_color", .str "label")]),
          ("step3", .obj [("type", .str "chevron"), ("x", .int 57), ("y", .int 25),
            ("w", .int 28), ("h", .int 15), ("fill", .str "danger"), ("tipSize", .int 40),
            ("text", .str "Ship"), ("text_color", .str "label")]),
          ("callout", .obj [("type", .str "speech-bubble"), ("x", .int 20), ("y", .int 55),
            ("w", .int 50), ("h", .int 30), ("fill", .str "#ffffff"), ("stroke", .str "warning"),
            ("stroke_width", .int 3), ("curvature", .int 12), ("tipSize", .int 24),
            ("text", .str "Shipped on time!"), ("text_valign", .str "top")])])]])]

def decks : List (String × Json) :=
  [("basic-deck", basicDeck), ("corporate-deck", corporateDeck), ("image-deck", imageDeck),
    ("master-deck", masterDeck), ("minimal-deck", minimalDeck), ("shapes-demo", shapesDemo)]

def directory : Directory :=
  decks.map fun deck => (fileOf deck.1, .file deck.2.compact)

def store : Store :=
  { place := "<bundled>", directory? := some directory }

end DeckPress.Library.Bundled
