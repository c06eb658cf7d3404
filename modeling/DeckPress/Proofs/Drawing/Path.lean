import DeckPress.Proofs.Drawing.Failure
import DeckPress.Proofs.Drawing.Integrity
import DeckPress.Proofs.Json.Wording
import DeckPress.Proofs.Markup.Content

/-!
The path of a vector shape as a reader finds it: its attributes in their order, with their entities
read back. The details of a stroke are there when one is drawn, and never otherwise. What a shape
leaves out has a default, and the default for a colour is looked up in the theme like a colour that
was given, so a palette can change it.
-/

namespace DeckPress

def Node.attributes : Node → List (String × String)
  | .text _ => []
  | .element _ attributes _ => attributes.map fun a => (a.1, decoded a.2)

theorem Page.attributes_written (name : String) (attributes : List Attribute)
    (inside : List Node) : (Node.element name (attributes.map written) inside).attributes =
      attributes.map fun a => (a.name.text, a.value) := by
  simp [Node.attributes, written, Node.decoded_escaped]

namespace Drawing

/-- A page is a picture of one path, which has some attributes and no others. -/
def PathOf (page : String) (attributes : List (String × String)) : Prop :=
  ∃ svg path, Page.read page.toList = some [svg] ∧ svg.isNamed "svg" = true ∧
    svg.elements = [path] ∧ path.isNamed "path" = true ∧ path.attributes = attributes

theorem PathOf.unique {page : String} {attributes others : List (String × String)}
    (one : PathOf page attributes) (other : PathOf page others) : attributes = others := by
  obtain ⟨svg, path, read, -, only, -, own⟩ := one
  obtain ⟨svg', path', read', -, only', -, own'⟩ := other
  cases read.symm.trans read'
  cases only.symm.trans only'
  exact own.symm.trans own'

/-! ## Strokes -/

def Strokes (tokens : Tokens) (s : Shape) (width : Float) : Prop :=
  strokeColor tokens s ≠ .str "none" ∧ 0.0 < width

theorem isNone_iff {v : Json} : isNone v = true ↔ v = .str "none" := by
  cases v <;> simp [isNone]

theorem drawsStroke_iff (tokens : Tokens) {s : Shape} {width : Float}
    (found : amountOr s.strokeWidth 0.0 = .ok width) :
    ∃ drawn, drawsStroke tokens s = .ok drawn ∧ (drawn = true ↔ Strokes tokens s width) := by
  unfold drawsStroke Strokes
  cases unset : isNone (strokeColor tokens s) with
  | true => exact ⟨false, rfl, by simp [isNone_iff.mp unset]⟩
  | false =>
    have colored : strokeColor tokens s ≠ .str "none" := fun same => by
      rw [isNone_iff.mpr same] at unset
      cases unset
    rw [found]
    exact ⟨decide (0.0 < width), rfl, by simp [colored]⟩

def dashAttribute (s : Shape) : List (String × String) :=
  match s.strokeDashes with
  | none | some (.text "") | some (.lengths []) => []
  | some dashes => [("stroke-dasharray", dashes.toJson.styleText)]

def strokeExtras (s : Shape) : List (String × String) :=
  [("stroke-opacity", (s.strokeOpacity.getD (.int 1)).styleText),
    ("stroke-linecap", textOr s.strokeLinecap "butt"),
    ("stroke-linejoin", textOr s.strokeLinejoin "miter")] ++ dashAttribute s

theorem strokeDetails_extras (s : Shape) :
    (strokeDetails s).map (fun a => (a.name.text, a.value)) = strokeExtras s := by
  have dashes : ((s.strokeDashes.toList.filter fun dashes => !dashes.isEmpty).map fun dashes =>
      ("stroke-dasharray", dashes.toJson.styleText)) = dashAttribute s := by
    unfold dashAttribute
    cases s.strokeDashes with
    | none => rfl
    | some dashes =>
      cases dashes with
      | text t => by_cases empty : t = "" <;> simp [Dashes.isEmpty, empty]
      | lengths amounts => cases amounts <;> simp [Dashes.isEmpty]
  rw [strokeDetails, strokeExtras, List.map_append, List.map_map, ← dashes]
  rfl

/-! ## Attributes -/

theorem read_drawn {m : Markup} (drawn : Drawn m) :
    Page.read m.render.toList = some (Page.ofMarkup m) := by
  rw [Markup.render, String.toList_ofList]
  exact Page.read_chars m fun rules member => absurd (drawn _ member _ rfl) (by decide)

theorem pathOf_render {attributes own : List Attribute}
    (drawn : Drawn (.element .svg attributes [.text "\n    ", .path own, .text "\n  "])) :
    PathOf (Markup.element .svg attributes [.text "\n    ", .path own, .text "\n  "]).render
      (own.map fun a => (a.name.text, a.value)) := by
  obtain ⟨svg, node⟩ : ∃ svg, Page.node?
      (.element .svg attributes [.text "\n    ", .path own, .text "\n  "]) = some svg := ⟨_, rfl⟩
  have page := read_drawn drawn
  rw [Page.ofMarkup_node node] at page
  exact ⟨svg, _, page, Page.isNamed_node node "svg", Page.elements_node node, rfl,
    Page.attributes_written ..⟩

theorem path_of_strokes {tokens : Tokens} {ratio : Float} {s : Shape} {family : String} {f : Family}
    {w h : Float} {p : Measures Float} {stroke : List Attribute}
    (known : Family.ofName? family = some f) (width : amountOr s.w 100.0 = .ok w)
    (height : amountOr s.h 100.0 = .ok h) (measured : measures s w h ratio = .ok p)
    (written : strokeAttributes tokens s = .ok stroke) :
    ∃ m, svg? tokens ratio s family = .ok (some m) ∧ PathOf m.render
      (("d", PathCommand.pathText (f.commands w h p)) ::
        ("fill", (tokens.color (.str (textOr s.fill "#2563eb"))).plainText) ::
        stroke.map fun a => (a.name.text, a.value)) := by
  obtain ⟨attributes, done⟩ : ∃ attributes, svg? tokens ratio s family =
      .ok (some (.element .svg attributes [.text "\n    ",
        .path (⟨.pathData, PathCommand.pathText (f.commands w h p)⟩ ::
          ⟨.fill, (tokens.color (.str (textOr s.fill "#2563eb"))).plainText⟩ :: stroke),
        .text "\n  "])) := by
    unfold svg?
    simp only [width, height, measured, known, written, bind, Except.bind]
    exact ⟨_, rfl⟩
  exact ⟨_, done, pathOf_render (drawn_svg done)⟩

theorem path_of_svg {tokens : Tokens} {ratio : Float} {s : Shape} {family : String} {m : Markup}
    (done : svg? tokens ratio s family = .ok (some m)) : ∃ d more, PathOf m.render (("d", d) ::
      ("fill", (tokens.color (.str (textOr s.fill "#2563eb"))).plainText) ::
      ("stroke", (strokeColor tokens s).plainText) :: more) := by
  obtain ⟨w, width, steps⟩ := bind_eq_ok.mp done
  obtain ⟨h, height, steps⟩ := bind_eq_ok.mp steps
  obtain ⟨p, measured, steps⟩ := bind_eq_ok.mp steps
  split at steps
  · cases steps
  · rename_i known
    obtain ⟨stroke, written, -⟩ := bind_eq_ok.mp steps
    obtain ⟨m', done', path⟩ := path_of_strokes known width height measured written
    cases done.symm.trans done'
    obtain ⟨drawn, -, same⟩ := bind_eq_ok.mp written
    cases same
    exact ⟨_, _, path⟩

/-- A known family whose measures all fit is drawn as a path with exactly these attributes. -/
theorem path_attributes (tokens : Tokens) (ratio : Float) (s : Shape) (family : String) {f : Family}
    (known : Family.ofName? family = some f)
    (fits : ∀ a ∈ s.strokeWidth :: measuresOf s, ¬ Amount.Oversized a) :
    ∃ w h p width m more, amountOr s.w 100.0 = .ok w ∧ amountOr s.h 100.0 = .ok h ∧
      amountOr s.margin (Outline.defaultMargin w h ratio) = .ok p.margin ∧
      amountOr s.curvature 10.0 = .ok p.curvature ∧ amountOr s.tipSize 20.0 = .ok p.tip ∧
      amountOr s.stemSize 40.0 = .ok p.stem ∧ amountOr s.strokeWidth 0.0 = .ok width ∧
      svg? tokens ratio s family = .ok (some m) ∧
      PathOf m.render ([("d", PathCommand.pathText (f.commands w h p)),
        ("fill", (tokens.color (.str (textOr s.fill "#2563eb"))).plainText),
        ("stroke", (tokens.color (.str (textOr s.stroke "none"))).plainText),
        ("stroke-width", (s.strokeWidth.getD (.int 0)).styleText)] ++ more) ∧
      (Strokes tokens s width → more = strokeExtras s) ∧
      (¬ Strokes tokens s width → more = []) := by
  rw [List.forall_mem_cons] at fits
  obtain ⟨w, h, p, width, height, measured⟩ := measured_of_fits fits.2 ratio
  obtain ⟨margin, curvature, tip, stem⟩ := measures_eq_ok.mp measured
  obtain ⟨x, thickness⟩ : Returns (amountOr s.strokeWidth 0.0) := returns_amountOr.mpr fits.1
  obtain ⟨drawn, decided, strokes⟩ := drawsStroke_iff tokens thickness
  have written : strokeAttributes tokens s = .ok ([⟨.stroke, (strokeColor tokens s).plainText⟩,
      ⟨.strokeWidth, (s.strokeWidth.getD (.int 0)).styleText⟩] ++
        if drawn then strokeDetails s else []) := by
    rw [strokeAttributes, decided]
    rfl
  obtain ⟨m, done, path⟩ := path_of_strokes known width height measured written
  refine ⟨w, h, p, x, m, if drawn then strokeExtras s else [], width, height, margin, curvature,
    tip, stem, thickness, done, ?_, ?_, ?_⟩
  · cases drawn with
    | true =>
      rw [if_pos rfl, List.map_append, strokeDetails_extras] at path
      exact path
    | false => exact path
  · intro colored
    rw [if_pos (strokes.mpr colored)]
  · intro colorless
    rw [if_neg fun drawn => colorless (strokes.mp drawn)]

/-! A shape with measures of its own, and with a stroke whose colour is an entry of the palette. -/

def dashedShape : Shape :=
  .ofRecord [("w", .int 200), ("h", .float 100.0), ("margin", .str "2.5"),
    ("curvature", .float 12.0), ("tip_size", .int 30), ("stem_size", .float 25.5),
    ("fill", .str "brand"), ("stroke", .str "none"), ("stroke_width", .float 2.0),
    ("stroke_dasharray", .arr [.int 4, .str "\"/>"])]

def dashedTokens : Tokens :=
  { colors := [("brand", .str "red"), ("none", .str "blue")] }

def dashedPath (d : String) : List (String × String) :=
  [("d", d), ("fill", "red"), ("stroke", "blue"), ("stroke-width", "2"), ("stroke-opacity", "1"),
    ("stroke-linecap", "butt"), ("stroke-linejoin", "miter"), ("stroke-dasharray", "4,\"/>")]

theorem fits_dashedShape :
    ∀ a ∈ dashedShape.strokeWidth :: measuresOf dashedShape, ¬ Amount.Oversized a := by
  have set : dashedShape.strokeWidth :: measuresOf dashedShape =
      [some (.float 2.0), some (.int 200), some (.float 100.0), some (.text "2.5"),
        some (.float 12.0), some (.int 30), some (.float 25.5)] := rfl
  have small : ∀ n : Int, n.natAbs ≤ 200 → ¬ (Json.int n).Oversized := by
    rintro n least ⟨m, same, large⟩
    cases same
    exact absurd (large.trans least) (by decide +kernel)
  simp [set, Amount.Oversized, Amount.toJson, Json.not_oversized, small]

theorem amounts_dashedShape :
    amountOr dashedShape.w 100.0 = .ok 200.0 ∧ amountOr dashedShape.h 100.0 = .ok 100.0 ∧
      amountOr dashedShape.margin (Outline.defaultMargin 200.0 100.0 0.25) = .ok 2.5 ∧
      amountOr dashedShape.curvature 10.0 = .ok 12.0 ∧
      amountOr dashedShape.tipSize 20.0 = .ok 30.0 ∧
      amountOr dashedShape.stemSize 40.0 = .ok 25.5 ∧
      amountOr dashedShape.strokeWidth 0.0 = .ok 2.0 := by
  decide +kernel

/-- An arrow has a stem and a speech bubble has round corners. -/
theorem path_attributes_dashed :
    (∃ m, svg? dashedTokens 0.25 dashedShape "arrow-right" = .ok (some m) ∧
      PathOf m.render (dashedPath <| "M2.5 37.25 L170 37.25 L170 2.5 L197.5 50 L170 97.5 " ++
        "L170 62.75 L2.5 62.75 Z")) ∧
    ∃ m, svg? dashedTokens 0.25 dashedShape "speech-bubble" = .ok (some m) ∧
      PathOf m.render (dashedPath <| "M14.5 2.5 L185.5 2.5 Q197.5 2.5 197.5 14.5 L197.5 55.5 " ++
        "Q197.5 67.5 185.5 67.5 L60 67.5 L50 97.5 L40 67.5 L14.5 67.5 Q2.5 67.5 2.5 55.5 " ++
        "L2.5 14.5 Q2.5 2.5 14.5 2.5 Z") := by
  have color : strokeColor dashedTokens dashedShape = .str "blue" := rfl
  have strokes : Strokes dashedTokens dashedShape 2.0 := ⟨by simp [color], by decide +kernel⟩
  have thickness : (dashedShape.strokeWidth.getD (.int 0)).styleText = "2" := by decide +kernel
  have extras : strokeExtras dashedShape = [("stroke-opacity", "1"), ("stroke-linecap", "butt"),
      ("stroke-linejoin", "miter"), ("stroke-dasharray", "4,\"/>")] := by decide +kernel
  have drawn {f : Family} {family : String} (known : Family.ofName? family = some f) {d : String}
      (text : PathCommand.pathText (f.commands 200.0 100.0 ⟨2.5, 12.0, 30.0, 25.5⟩) = d) :
      ∃ m, svg? dashedTokens 0.25 dashedShape family = .ok (some m) ∧
        PathOf m.render (dashedPath d) := by
    obtain ⟨wide, high, margin, curvature, tip, stem, thick⟩ := amounts_dashedShape
    obtain ⟨w, h, ⟨m, c, t, s⟩, width, markup, more, wide', high', margin', curvature', tip', stem',
      thick', done, path, details, -⟩ :=
      path_attributes dashedTokens 0.25 dashedShape family known fits_dashedShape
    obtain rfl := Except.ok.inj (wide.symm.trans wide')
    obtain rfl := Except.ok.inj (high.symm.trans high')
    obtain rfl := Except.ok.inj (margin.symm.trans margin')
    obtain rfl := Except.ok.inj (curvature.symm.trans curvature')
    obtain rfl := Except.ok.inj (tip.symm.trans tip')
    obtain rfl := Except.ok.inj (stem.symm.trans stem')
    obtain rfl := Except.ok.inj (thick.symm.trans thick')
    rw [text, details strokes, extras, thickness] at path
    exact ⟨markup, done, path⟩
  exact ⟨drawn (f := .arrowRight) rfl (by decide +kernel),
    drawn (f := .speechBubble) rfl (by decide +kernel)⟩

/-! ## Defaults -/

def picture? (tokens : Tokens) (ratio : Float) (s : Shape) (family : String) :
    Except NumberError (Option String) := do
  return (← svg? tokens ratio s family).map Markup.render

def Outlined (s : Shape) (family : String) : Prop :=
  (Family.ofName? family).isSome ∧ ∀ a ∈ measuresOf s, ¬ Amount.Oversized a

/-- A name for a colour that stands for itself. -/
def Leaves (tokens : Tokens) (name : String) : Prop :=
  tokens.color (.str name) = .str name

theorem leaves_disabled (name : String) : Leaves .disabled name :=
  rfl

theorem textOr_of_unset {o : Option String} (unset : o.getD "" = "") (default : String) :
    textOr o default = default := by
  cases o with
  | none => rfl
  | some s =>
    cases unset
    rfl

theorem svg?_congr {t u : Tokens} {s : Shape}
    (fill : t.color (.str (textOr s.fill "#2563eb")) = u.color (.str (textOr s.fill "#2563eb")))
    (stroke : strokeColor t s = strokeColor u s) (ratio : Float) (family : String) :
    svg? t ratio s family = svg? u ratio s family := by
  have attributes : strokeAttributes t s = strokeAttributes u s := by
    simp only [strokeAttributes, drawsStroke, stroke]
  simp only [svg?, attributes, fill]

theorem svg?_of_not_outlined {s : Shape} {family : String} (bare : ¬ Outlined s family)
    (t u : Tokens) (ratio : Float) : svg? t ratio s family = svg? u ratio s family := by
  cases known : Family.ofName? family with
  | none => simp only [svg?, known]
  | some f =>
    have fails (tokens : Tokens) : svg? tokens ratio s family = .error .tooLarge := by
      have stuck : ¬ Returns (svg? tokens ratio s family) := by
        rw [returns_svg?, not_not]
        by_contra fine
        exact bare ⟨by rw [known]; rfl, fun a member large => fine (.measure a member large)⟩
      cases done : svg? tokens ratio s family with
      | error e => rfl
      | ok found => exact absurd ⟨found, done⟩ stuck
    rw [fails, fails]

section Unset

variable {s : Shape} (fill : s.fill.getD "" = "") (stroke : s.stroke.getD "" = "")

include fill stroke

theorem picture_default {family : String} (outlined : Outlined s family) (ratio : Float) :
    ∃ page d, picture? .disabled ratio s family = .ok (some page) ∧
      PathOf page [("d", d), ("fill", "#2563eb"), ("stroke", "none"),
        ("stroke-width", (s.strokeWidth.getD (.int 0)).styleText)] := by
  obtain ⟨known, fits⟩ := outlined
  obtain ⟨f, known⟩ := Option.isSome_iff_exists.mp known
  obtain ⟨w, h, p, width, height, measured⟩ := measured_of_fits fits ratio
  have colorless : strokeColor .disabled s = .str "none" := by
    rw [strokeColor, textOr_of_unset stroke]
    rfl
  have written : strokeAttributes .disabled s = .ok [⟨.stroke, "none"⟩,
      ⟨.strokeWidth, (s.strokeWidth.getD (.int 0)).styleText⟩] := by
    rw [strokeAttributes, drawsStroke, colorless]
    rfl
  obtain ⟨m, done, path⟩ := path_of_strokes known width height measured written
  rw [textOr_of_unset fill] at path
  refine ⟨m.render, _, ?_, path⟩
  rw [picture?, done]
  rfl

/-- A palette changes nothing exactly when it has no other entries under the defaults. -/
theorem picture_eq_iff (tokens : Tokens) (ratio : Float) (family : String) :
    picture? tokens ratio s family = picture? .disabled ratio s family ↔
      (Outlined s family → Leaves tokens "#2563eb" ∧ Leaves tokens "none") := by
  constructor
  · intro same outlined
    obtain ⟨page, d, plain, path⟩ := picture_default fill stroke outlined ratio
    obtain ⟨found, done, drawn⟩ := bind_eq_ok.mp (same.trans plain)
    obtain ⟨m, rfl, rfl⟩ := Option.map_eq_some_iff.mp (Except.ok.inj drawn)
    obtain ⟨d', more, path'⟩ := path_of_svg done
    have own := path'.unique path
    rw [strokeColor, textOr_of_unset fill, textOr_of_unset stroke] at own
    simp only [List.cons.injEq, Prod.mk.injEq, true_and] at own
    obtain ⟨-, filled, stroked, -⟩ := own
    exact ⟨Json.eq_str_of_plainText (c := '#') filled (by decide) (by decide) (by decide)
        (by decide),
      Json.eq_str_of_plainText (c := 'o') stroked (by decide) (by decide) (by decide)
        (by decide)⟩
  · intro leaves
    by_cases outlined : Outlined s family
    · obtain ⟨filled, stroked⟩ := leaves outlined
      rw [picture?, picture?, svg?_congr (u := .disabled) ?_ ?_]
      · rw [textOr_of_unset fill, filled, leaves_disabled]
      · rw [strokeColor, strokeColor, textOr_of_unset stroke, stroked, leaves_disabled]
    · rw [picture?, picture?, svg?_of_not_outlined outlined tokens .disabled]

end Unset

/-- A picture of a shape without colours of its own depends on the palette exactly when there is an
entry under a default; without one the path has the defaults and no details of a stroke. -/
theorem picture_unset (tokens : Tokens) (ratio : Float) (s : Shape) (family : String)
    (fill : s.fill.getD "" = "") (stroke : s.stroke.getD "" = "") :
    (picture? tokens ratio s family = picture? .disabled ratio s family ↔
      (Outlined s family → Leaves tokens "#2563eb" ∧ Leaves tokens "none")) ∧
    (Outlined s family → ∃ page d, picture? .disabled ratio s family = .ok (some page) ∧
      PathOf page [("d", d), ("fill", "#2563eb"), ("stroke", "none"),
        ("stroke-width", (s.strokeWidth.getD (.int 0)).styleText)]) :=
  ⟨picture_eq_iff fill stroke tokens ratio family,
    fun outlined => picture_default fill stroke outlined ratio⟩

def plainShape : Shape :=
  .ofRecord []

theorem outlined_plain : Outlined plainShape "rectangle" := by
  have unset : measuresOf plainShape = [none, none, none, none, none, none] := rfl
  refine ⟨rfl, ?_⟩
  simp [unset, Amount.Oversized]

def brandTokens : Tokens :=
  { colors := [("brand", .str "red")] }

theorem picture_unset_plain :
    plainShape.fill.getD "" = "" ∧ plainShape.stroke.getD "" = "" ∧
      ∃ page d, picture? brandTokens 0.0 plainShape "rectangle" = .ok (some page) ∧
        PathOf page [("d", d), ("fill", "#2563eb"), ("stroke", "none"), ("stroke-width", "0")] := by
  obtain ⟨free, drawn⟩ := picture_unset brandTokens 0.0 plainShape "rectangle" rfl rfl
  obtain ⟨page, d, plain, path⟩ := drawn outlined_plain
  have width : (plainShape.strokeWidth.getD (.int 0)).styleText = "0" := by decide
  rw [width] at path
  exact ⟨rfl, rfl, page, d, (free.mpr fun _ => ⟨rfl, rfl⟩).trans plain, path⟩

def defaultTokens : Tokens :=
  { colors := [("#2563eb", .str "red")] }

theorem picture_not_free :
    picture? defaultTokens 0.0 plainShape "rectangle" ≠ picture? {} 0.0 plainShape "rectangle" := by
  have empty : picture? {} 0.0 plainShape "rectangle" =
      picture? .disabled 0.0 plainShape "rectangle" :=
    (picture_eq_iff rfl rfl _ _ _).mpr fun _ => ⟨rfl, rfl⟩
  have named : defaultTokens.color (.str "#2563eb") = .str "red" := rfl
  rw [empty, ne_eq, picture_eq_iff rfl rfl]
  intro leaves
  have filled := (leaves outlined_plain).1
  rw [Leaves, named] at filled
  exact absurd (Json.str.inj filled) (by decide)

end Drawing

end DeckPress
