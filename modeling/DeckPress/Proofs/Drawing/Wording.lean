import DeckPress.Proofs.Cascade.Wording
import DeckPress.Proofs.Drawing.Recovery
import DeckPress.Proofs.Interpolation
import DeckPress.Proofs.Markup.Wording
import DeckPress.Proofs.Outline.PathText
import DeckPress.Proofs.Style.Wording

/-!
What a drawing says. Numbers aside, what is written into a slide is a text of the deck, a value that
is written as a whole, or texts next to each other: a measure and its unit, a text and the values
put into it. A slide is clear when there is no null in those values and the word for null does not
come about where those texts meet. Then the word does not stand in the slide.
-/

namespace DeckPress

open Record Text

/-! ## Placeholders -/

namespace Interpolation

def putInto (values : Record Json) (text : String) : List Json :=
  (pieces values text.toList).filterMap fun
    | .run _ => none
    | .value v => some v

def seam (values : Record Json) (text : String) : List (List Char) :=
  (pieces values text.toList).map Piece.chars

theorem silent_interpolate {values : Record Json} (wordless : values.Wordless) {text : String}
    (silent : Silent text.toList) (full : ∀ v ∈ putInto values text, v.holdsNull = false)
    (seamless : Seamless (seam values text)) : Silent (interpolate text values).toList := by
  obtain ⟨first, others, split, parted⟩ := parted_pieces values text.toList
  have joined : (interpolate text values).toList = (seam values text).flatten := by
    rw [interpolate, String.toList_ofList, ← parted.joined, seam, split, List.flatMap_def]
    rfl
  rw [joined]
  refine seamless.silent fun part member => ?_
  obtain ⟨piece, present, rfl⟩ := List.mem_map.mp member
  rw [split] at present
  rcases List.mem_cons.mp present with rfl | present
  · exact silent.of_infix parted.starts.isInfix
  cases piece with
  | run s => exact silent.of_infix (parted.runs s present)
  | value v =>
    obtain ⟨name, given⟩ := parted.given v present
    have inside : v ∈ putInto values text := by
      refine List.mem_filterMap.mpr ⟨.value v, ?_, rfl⟩
      rw [split]
      exact List.mem_cons_of_mem _ present
    exact Json.silent_styleText v (wordless.given? given) (full v inside)

end Interpolation

namespace Drawing

open Interpolation

/-! ## Shapes -/

def paintValues (t : Tokens) (s : Shape) : List Json :=
  [t.color (.str (textOr s.fill "#2563eb")), strokeColor t s]

/-- The values that are written into a shape as a whole. -/
def wholes (c : Context) (s : Shape) : ShapeKind → List Json
  | .text => Style.fontValues c.tokens s ++ putInto c.values (s.text.getD "")
  | .image => []
  | .list =>
    Style.fontValues c.tokens s ++
      s.items.flatMap fun item => item :: putInto c.values (bulleted s.bullet item.styleText)
  | .vector _ =>
    paintValues c.tokens s ++ putInto c.values (s.text.getD "") ++
      if interpolate (s.text.getD "") c.values = "" then [] else Style.fontValues c.tokens s

/-- The texts that are written into a shape next to each other. -/
def seams (c : Context) (s : Shape) : ShapeKind → List (List (List Char))
  | .text => Style.boxSeams s ++ [seam c.values (s.text.getD "")]
  | .image => Style.boxSeams s
  | .list =>
    Style.boxSeams s ++ s.items.map fun item => seam c.values (bulleted s.bullet item.styleText)
  | .vector _ => Style.boxSeams s ++ [seam c.values (s.text.getD "")]

/-- A shape into which nothing brings the word for null but a text that has it. -/
structure Clear (c : Context) (s : Shape) (kind : ShapeKind) : Prop where
  full : ∀ v ∈ wholes c s kind, v.holdsNull = false
  seamless : ∀ parts ∈ seams c s kind, Seamless parts

theorem silent_outline (family : Family) (w h : Float) (p : Measures Float) :
    Silent (PathCommand.pathText (family.commands w h p)).toList :=
  silent_of_not_mem (family.not_mem_commands w h p)

theorem silent_textOr {o : Option String} (each : ∀ s ∈ o, Silent s.toList) {default : String}
    (fallback : Silent default.toList) : Silent (textOr o default).toList := by
  unfold textOr
  split
  · exact fallback
  · exact fallback
  · exact each _ rfl

section OfRecord

variable {r : Record Json} (wordless : r.Wordless) {c : Context} (tokens : c.tokens.Wordless)
  (values : c.values.Wordless) {id : String} (named : Silent id.toList)

include wordless named in
theorem silent_block {ds : Declarations} (styles : ∀ d ∈ ds, d.Silent) :
    ∀ a ∈ identity id (Shape.ofRecord r) ++ [ds.attribute], Silent a.value.toList := by
  have kind : Silent ((Shape.ofRecord r).type.getD "").toList :=
    getD_of_forall (wordless.text ["type"]) (by decide)
  simp only [identity, List.forall_mem_append, List.forall_mem_cons]
  exact ⟨⟨named, kind, nofun⟩, Declarations.silent_text styles, nofun⟩

include wordless values in
theorem silent_content
    (full : ∀ v ∈ putInto c.values ((Shape.ofRecord r).text.getD ""), v.holdsNull = false)
    (seamless : Seamless (seam c.values ((Shape.ofRecord r).text.getD ""))) :
    Silent (interpolate ((Shape.ofRecord r).text.getD "") c.values).toList :=
  silent_interpolate values (getD_of_forall (wordless.text ["text"]) (by decide)) full seamless

include wordless in
theorem silent_bulleted {item : Json} (known : item.Wordless) (full : item.holdsNull = false) :
    Silent (bulleted (Shape.ofRecord r).bullet item.styleText).toList := by
  have own := Json.silent_styleText item known full
  unfold bulleted
  split
  · exact own
  · exact own
  · rename_i bullet _ given
    rw [String.toList_append, String.toList_append, List.append_assoc]
    exact silent_append (wordless.text ["bullet"] bullet given) (guarded_cons (by decide) own)

include wordless named

include tokens values in
theorem guarded_text (clear : Clear c (Shape.ofRecord r) .text) :
    Guarded (text c id (Shape.ofRecord r)).chars := by
  obtain ⟨full, seamless⟩ := clear
  simp only [wholes, List.forall_mem_append] at full
  simp only [seams, List.forall_mem_append, List.forall_mem_singleton] at seamless
  have styles : ∀ d ∈ Style.box (Shape.ofRecord r) ++
      Style.alignment (Shape.ofRecord r) .left .top ++ Style.font c.tokens (Shape.ofRecord r),
      d.Silent := by
    simp only [List.forall_mem_append]
    exact ⟨⟨Style.silent_box wordless seamless.1, Style.silent_alignment _ _ _⟩,
      Style.silent_font wordless tokens full.1⟩
  exact Markup.guarded_division (by decide) (silent_block wordless named styles)
    (Markup.silent_single (silent_content wordless values full.2 seamless.2))

theorem guarded_imageBlock (clear : Clear c (Shape.ofRecord r) .image) :
    Guarded (image id (Shape.ofRecord r)).chars := by
  have styles := Style.silent_box wordless clear.seamless
  have fit : ∀ d ∈ ((Style.filled (Shape.ofRecord r).imageFit).map
      fun fit => ⟨"object-fit", fit⟩ : Declarations), d.Silent := by
    rw [List.forall_mem_map]
    intro fit member
    exact .of_value (by decide) (wordless.text ["image_fit"] fit (Style.mem_of_filled member))
  have source : Silent ((Shape.ofRecord r).imageSrc.getD "").toList :=
    getD_of_forall (wordless.text ["image_src"]) (by decide)
  have alternative : Silent ((Shape.ofRecord r).alt.getD "").toList :=
    getD_of_forall (wordless.text ["alt"]) (by decide)
  refine Markup.guarded_division (by decide) (silent_block wordless named styles)
    (Markup.guarded_children ?_).1
  simp only [List.forall_mem_cons]
  refine ⟨by decide, Markup.guarded_image ?_, by decide, nofun⟩
  simp only [List.forall_mem_cons]
  exact ⟨source, alternative, Declarations.silent_text fit, nofun⟩

include tokens values in
theorem guarded_list (clear : Clear c (Shape.ofRecord r) .list) :
    Guarded (list c id (Shape.ofRecord r)).chars := by
  obtain ⟨full, seamless⟩ := clear
  simp only [wholes, List.forall_mem_append, List.forall_mem_flatMap, List.forall_mem_cons] at full
  simp only [seams, List.forall_mem_append, List.forall_mem_map] at seamless
  have style := Declarations.silent_text (Style.silent_font wordless tokens full.1)
  have styles : ∀ d ∈ Style.box (Shape.ofRecord r) ++
      Style.alignment (Shape.ofRecord r) .left .middle, d.Silent :=
    List.forall_mem_append.mpr
      ⟨Style.silent_box wordless seamless.1, Style.silent_alignment _ _ _⟩
  have items : ∀ item ∈ (Shape.ofRecord r).items.map fun item => Markup.element .li
      [Declarations.attribute (Style.font c.tokens (Shape.ofRecord r))]
      [.text (itemText c (Shape.ofRecord r) item)], Guarded item.chars := by
    rw [List.forall_mem_map]
    intro item member
    obtain ⟨whole, inside⟩ := full.2 item member
    have own := silent_bulleted wordless (wordless.list ["items"] item member) whole
    have content := silent_interpolate values own inside (seamless.2 item member)
    refine Markup.guarded_element (List.forall_mem_singleton.mpr style) (Markup.silent_single ?_)
    rw [itemText_eq]
    exact content
  refine Markup.guarded_division (by decide) (silent_block wordless named styles)
    (Markup.guarded_children (List.forall_mem_singleton.mpr ?_)).1
  exact Markup.guarded_element nofun (Markup.guarded_children items).1

omit named in
theorem silent_strokeDetails :
    ∀ a ∈ strokeDetails (Shape.ofRecord r), Silent a.value.toList := by
  have opacity : Silent ((Shape.ofRecord r).strokeOpacity.getD (.int 1)).styleText.toList :=
    Reader.silent_amount (getD_of_forall (wordless.amount ["stroke_opacity"]) nofun)
  have cap : Silent (textOr (Shape.ofRecord r).strokeLinecap "butt").toList :=
    silent_textOr (wordless.text ["stroke_linecap"]) (by decide)
  have join : Silent (textOr (Shape.ofRecord r).strokeLinejoin "miter").toList :=
    silent_textOr (wordless.text ["stroke_linejoin"]) (by decide)
  unfold strokeDetails
  simp only [List.forall_mem_append, List.forall_mem_cons, List.forall_mem_map]
  refine ⟨⟨opacity, cap, join, nofun⟩, fun dashes member => ?_⟩
  have given := Option.mem_toList.mp (List.mem_of_mem_filter member)
  exact wordless.value? (fun _ _ => Reader.silent_dashes) ["stroke_dasharray"] dashes given

omit named in
include tokens in
theorem silent_strokeAttributes (full : (strokeColor c.tokens (Shape.ofRecord r)).holdsNull = false)
    {stroke : List Attribute}
    (written : strokeAttributes c.tokens (Shape.ofRecord r) = .ok stroke) :
    ∀ a ∈ stroke, Silent a.value.toList := by
  have color : Silent (strokeColor c.tokens (Shape.ofRecord r)).plainText.toList :=
    (tokens.color (silent_textOr (wordless.text ["stroke"]) (by decide)) full).plain
  have width : Silent ((Shape.ofRecord r).strokeWidth.getD (.int 0)).styleText.toList :=
    Reader.silent_amount (getD_of_forall (wordless.amount ["stroke_width"]) nofun)
  obtain ⟨drawn, -, same⟩ := bind_eq_ok.mp written
  cases same
  simp only [List.forall_mem_append, List.forall_mem_cons]
  refine ⟨⟨color, width, nofun⟩, ?_⟩
  split
  · exact silent_strokeDetails wordless
  · exact nofun

omit named in
include tokens in
theorem guarded_svg {ratio : Float} {family : String}
    (full : ∀ v ∈ paintValues c.tokens (Shape.ofRecord r), v.holdsNull = false)
    {picture : Markup}
    (done : svg? c.tokens ratio (Shape.ofRecord r) family = .ok (some picture)) :
    Guarded picture.chars := by
  simp only [paintValues, List.forall_mem_cons] at full
  obtain ⟨fillFull, strokeFull, -⟩ := full
  have fill := (tokens.color (silent_textOr (wordless.text ["fill"]) (by decide)) fillFull).plain
  obtain ⟨w, -, done⟩ := bind_eq_ok.mp done
  obtain ⟨h, -, done⟩ := bind_eq_ok.mp done
  obtain ⟨p, -, done⟩ := bind_eq_ok.mp done
  split at done
  · cases done
  · obtain ⟨stroke, written, done⟩ := bind_eq_ok.mp done
    cases done
    have viewBox : Silent ("0 0 " ++ Json.floatStyleText w ++ " " ++
        Json.floatStyleText h).toList := by
      refine silent_of_not_mem ?_
      simp only [String.toList_append, List.mem_append, not_or]
      exact ⟨⟨⟨by decide, Json.not_mem_floatStyleText (by decide) w⟩, by decide⟩,
        Json.not_mem_floatStyleText (by decide) h⟩
    refine Markup.guarded_element ?_ (Markup.guarded_children ?_).1
    · simp only [List.forall_mem_cons]
      exact ⟨viewBox, by decide, nofun⟩
    · simp only [List.forall_mem_cons]
      refine ⟨by decide, Markup.guarded_path ?_, by decide, nofun⟩
      simp only [List.forall_mem_cons]
      exact ⟨silent_outline _ w h p, fill,
        silent_strokeAttributes wordless tokens strokeFull written⟩

omit named in
include tokens values in
theorem guarded_overlay
    (full : ∀ v ∈ putInto c.values ((Shape.ofRecord r).text.getD ""), v.holdsNull = false)
    (seamless : Seamless (seam c.values ((Shape.ofRecord r).text.getD "")))
    (fonts : ∀ v ∈ if interpolate ((Shape.ofRecord r).text.getD "") c.values = "" then []
      else Style.fontValues c.tokens (Shape.ofRecord r), v.holdsNull = false) :
    ∀ m ∈ overlay c (Shape.ofRecord r), Guarded m.chars := by
  unfold overlay
  dsimp only
  split
  · exact nofun
  · rename_i filled
    rw [if_neg filled] at fonts
    have font := Style.silent_font wordless tokens fonts
    have styles : ∀ d ∈ Style.alignment (Shape.ofRecord r) .center .middle ++
        if (Style.font c.tokens (Shape.ofRecord r)).isEmpty then
          ([⟨"text-align", "center"⟩] : Declarations)
        else Style.font c.tokens (Shape.ofRecord r), d.Silent := by
      refine List.forall_mem_append.mpr ⟨Style.silent_alignment _ _ _, ?_⟩
      split
      · decide
      · exact font
    refine List.forall_mem_singleton.mpr (Markup.guarded_division (by decide) ?_
      (Markup.silent_single (silent_content wordless values full seamless)))
    exact List.forall_mem_singleton.mpr (Declarations.silent_text styles)

include tokens values in
theorem guarded_vector {family : String} (clear : Clear c (Shape.ofRecord r) (.vector family))
    {m : Markup} (done : vector? c id (Shape.ofRecord r) family = .ok (some m)) :
    Guarded m.chars := by
  obtain ⟨full, seamless⟩ := clear
  simp only [wholes, List.forall_mem_append] at full
  simp only [seams, List.forall_mem_append, List.forall_mem_singleton] at seamless
  have styles := Style.silent_box wordless seamless.1
  obtain ⟨found, picture, done⟩ := bind_eq_ok.mp done
  cases found with
  | none => cases done
  | some outline =>
    cases done
    refine Markup.guarded_division (by decide) (silent_block wordless named styles)
      (Markup.guarded_children (List.forall_mem_cons.mpr ?_)).1
    exact ⟨guarded_svg wordless tokens full.1.1 picture,
      guarded_overlay wordless tokens values full.1.2 seamless.2 full.2⟩

end OfRecord

theorem drawable_of_vector {c : Context} {id : String} {s : Shape} {family : String} {m : Markup}
    (done : vector? c id s family = .ok (some m)) :
    (ShapeKind.vector family).drawable = true := by
  obtain ⟨found, picture, done⟩ := bind_eq_ok.mp done
  have outline := svg?_outline picture
  unfold ShapeKind.drawable
  cases found with
  | none => cases done
  | some drawn =>
    dsimp only
    generalize Family.ofName? family = known at outline ⊢
    cases outline with
    | some _ => rfl

theorem shown?_of_drawable {policy : RenderPolicy} {entry : String × Record Json} {s : Shape}
    {kind : ShapeKind} (read : Shape.read (.obj entry.2) = .ok s)
    (classified : classify policy s = some kind) (drawable : kind.drawable = true) :
    shown? policy entry = some ⟨entry.1, s, kind⟩ := by
  rw [shown?, read]
  dsimp only
  rw [classified, Option.filter_some, if_pos drawable]
  rfl

theorem guarded_shape? {c : Context} (tokens : c.tokens.Wordless) (values : c.values.Wordless)
    {entry : String × Record Json} (wordless : entry.2.Wordless)
    (clear : ∀ shown, shown? c.policy entry = some shown →
      Silent entry.1.toList ∧ Clear c shown.shape shown.kind)
    {m : Markup} (done : (shape? c entry.1 (.obj entry.2)).outcome = .ok (some m)) :
    Guarded m.chars := by
  rw [outcome_shape?] at done
  cases read : Shape.read (.obj entry.2) with
  | error refusal =>
    rw [read] at done
    cases done
  | ok s =>
    have own {kind : ShapeKind} (classified : classify c.policy s = some kind)
        (drawable : kind.drawable = true) : Silent entry.1.toList ∧ Clear c s kind :=
      clear _ (shown?_of_drawable read classified drawable)
    have given := wordless.withoutNulls
    obtain ⟨-, rfl⟩ := readEntity_ok read
    rw [read] at done
    dsimp only at done
    cases classified : classify c.policy (Shape.ofRecord entry.2.withoutNulls) with
    | none =>
      rw [classified] at done
      cases done
    | some kind =>
      rw [classified] at done
      cases kind with
      | text =>
        obtain ⟨named, clear⟩ := own classified rfl
        cases done
        exact guarded_text given tokens values named clear
      | image =>
        obtain ⟨named, clear⟩ := own classified rfl
        cases done
        exact guarded_imageBlock given named clear
      | list =>
        obtain ⟨named, clear⟩ := own classified rfl
        cases done
        exact guarded_list given tokens values named clear
      | vector family =>
        obtain ⟨named, clear⟩ := own classified (drawable_of_vector done)
        exact guarded_vector given tokens values named clear done

end Drawing

end DeckPress
