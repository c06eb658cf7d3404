import DeckPress.Proofs.Entity.Wording
import DeckPress.Style.Background
import DeckPress.Style.Box
import DeckPress.Style.Sheet

/-!
What styles say. A declaration has a text of the deck next to a text that is not: a measure and its
unit, and in the stylesheet what is left of a text around the characters that are taken out of it.
There the word for null can come about; and it stands in an entry of the theme that has a null in
it. Nowhere else does it stand in a style, unless a text of the deck brings it.
-/

namespace DeckPress

open Text

def Declaration.Silent (d : Declaration) : Prop :=
  Text.Silent d.property.toList ∧ Text.Silent d.value.toList

instance (d : Declaration) : Decidable d.Silent :=
  inferInstanceAs (Decidable (_ ∧ _))

theorem Declaration.Silent.of_value {property value : String} (plain : Text.Silent property.toList)
    (silent : Text.Silent value.toList) : Declaration.Silent ⟨property, value⟩ :=
  ⟨plain, silent⟩

theorem Declarations.silent_text {ds : Declarations} (each : ∀ d ∈ ds, d.Silent) :
    Silent (Declarations.text ds).toList := by
  refine silent_intercalate rfl (by decide) (by decide) fun s member => ?_
  obtain ⟨d, present, rfl⟩ := List.mem_map.mp member
  obtain ⟨property, value⟩ := each d present
  have apart : Guarded (": ".toList ++ (d.value.toList ++ ";".toList)) :=
    guarded_cons (by decide)
      (silent_append_of_not_mem (s := [' ']) (by decide) (silent_append value (by decide)))
  rw [Declaration.text, String.toList_append, String.toList_append, String.toList_append,
    List.append_assoc, List.append_assoc]
  exact silent_append property apart

structure Tokens.Wordless (t : Tokens) : Prop where
  colors : t.colors.Wordless
  fonts : t.fonts.Wordless

/-- A value in both of whose forms the word does not stand. -/
structure Json.Silent (v : Json) : Prop where
  style : Text.Silent v.styleText.toList
  plain : Text.Silent v.plainText.toList

theorem Json.silent_str {s : String} (silent : Text.Silent s.toList) : (str s).Silent where
  style := by rwa [styleText_str]
  plain := silent

theorem Json.silent_of_wordless {v : Json} (wordless : v.Wordless) (full : v.holdsNull = false) :
    v.Silent where
  style := silent_styleText v wordless full
  plain := silent_plainText wordless full

theorem silent_resolveToken {table : Record Json} (wordless : table.Wordless) {name : String}
    (silent : Text.Silent name.toList) (full : (resolveToken (.str name) table).holdsNull = false) :
    (resolveToken (.str name) table).Silent := by
  unfold resolveToken at full ⊢
  split
  · exact Json.silent_str silent
  · rename_i other _ same
    cases same
    cases found : table.get? name with
    | none => exact Json.silent_str silent
    | some entry =>
      simp only [found, Option.getD_some] at full
      exact Json.silent_of_wordless (wordless.get? found) full
  · exact Json.silent_str silent

namespace Tokens.Wordless

variable {t : Tokens} (wordless : t.Wordless) {name : String} (silent : Text.Silent name.toList)

include wordless silent

theorem color (full : (t.color (.str name)).holdsNull = false) : (t.color (.str name)).Silent := by
  unfold Tokens.color at full ⊢
  split
  · rename_i enabled
    rw [if_pos enabled] at full
    exact silent_resolveToken wordless.colors silent full
  · exact Json.silent_str silent

theorem font (full : (t.font (.str name)).holdsNull = false) : (t.font (.str name)).Silent := by
  unfold Tokens.font at full ⊢
  split
  · rename_i enabled
    rw [if_pos enabled] at full
    exact silent_resolveToken wordless.fonts silent full
  · exact Json.silent_str silent

end Tokens.Wordless

theorem or_of_forall {α : Type} {P : α → Prop} {x y : Option α} (left : ∀ a ∈ x, P a)
    (right : ∀ a ∈ y, P a) : ∀ a ∈ x.or y, P a := by
  cases x with
  | none => exact right
  | some a => exact left

namespace Style

/-! ## Shapes -/

theorem silent_measure {amount : Option Amount} (given : ∀ a ∈ amount, a.toJson.Wordless)
    {default : String} (fallback : Silent default.toList) :
    Silent (measure amount default).toList := by
  cases amount with
  | none => exact fallback
  | some a => exact Reader.silent_amount (given a rfl)

/-- The measures of a box, each next to the unit. -/
def boxSeams (s : Shape) : List (List (List Char)) :=
  [measure s.x "0", measure s.y "0", measure s.w "100", measure s.h "100"].map fun length =>
    [length.toList, (s.unit.getD "%").toList]

def fontValues (t : Tokens) (s : Shape) : List Json :=
  (filled s.font).map (fun f => t.font (.str f)) ++
    (filled s.textFill).map fun c => t.color (.str c)

theorem mem_of_filled {o : Option String} {s : String} (member : s ∈ filled o) : s ∈ o :=
  Option.mem_toList.mp (List.mem_of_mem_filter member)

theorem mem_of_setAmount {o : Option Amount} {a : Amount} (member : a ∈ setAmount o) : a ∈ o :=
  Option.mem_toList.mp (List.mem_of_mem_filter member)

theorem mem_aligned? {values : List (String × String)} {word : Option String}
    {default v : String} (found : aligned? values word default = some v) :
    v ∈ values.map (·.2) := by
  obtain ⟨fallback, known, same⟩ := Option.map_eq_some_iff.mp found
  have member : fallback ∈ values.map (·.2) := List.mem_map_of_mem (Record.mem_of_get? known)
  split at same
  · exact same ▸ member
  · exact same ▸ member
  · rename_i word _
    cases own : Record.get? values word with
    | none =>
      rw [own] at same
      exact same ▸ member
    | some value =>
      rw [own] at same
      exact same ▸ List.mem_map_of_mem (Record.mem_of_get? own)

theorem silent_alignment (s : Shape) (horizontal : Horizontal) (vertical : Vertical) :
    ∀ d ∈ alignment s horizontal vertical, d.Silent := by
  have justified : ∀ v ∈ justifications.map (·.2), Silent v.toList := by decide
  have lined : ∀ v ∈ itemAlignments.map (·.2), Silent v.toList := by decide
  unfold alignment
  cases found : alignment? s.textAlign s.textValign horizontal.word vertical.word with
  | none => exact nofun
  | some ds =>
    obtain ⟨justify, first, found⟩ := Option.bind_eq_some_iff.mp found
    obtain ⟨align, second, found⟩ := Option.bind_eq_some_iff.mp found
    cases found
    simp only [Option.getD_some, List.forall_mem_cons]
    exact ⟨.of_value (by decide) (justified _ (mem_aligned? first)),
      .of_value (by decide) (lined _ (mem_aligned? second)), nofun⟩

section OfRecord

variable {r : Record Json} (wordless : r.Wordless)

include wordless

theorem silent_box (seams : ∀ parts ∈ boxSeams (Shape.ofRecord r), Seamless parts) :
    ∀ d ∈ box (Shape.ofRecord r), d.Silent := by
  have unit : Silent ((Shape.ofRecord r).unit.getD "%").toList :=
    getD_of_forall (wordless.text ["unit"]) (by decide)
  have length {amount : Option Amount} {default : String}
      (seamless : Seamless [(measure amount default).toList,
        ((Shape.ofRecord r).unit.getD "%").toList])
      (given : ∀ a ∈ amount, a.toJson.Wordless) (fallback : Silent default.toList) :
      Silent (measure amount default ++ (Shape.ofRecord r).unit.getD "%").toList := by
    have joined := seamless.silent (by
      simp only [List.forall_mem_cons]
      exact ⟨silent_measure given fallback, unit, nofun⟩)
    simpa using joined
  simp only [boxSeams, List.map_cons, List.map_nil, List.forall_mem_cons] at seams
  obtain ⟨x, y, w, h, -⟩ := seams
  unfold box
  dsimp only
  rw [List.forall_mem_append, List.forall_mem_append, List.forall_mem_map, List.forall_mem_map]
  simp only [List.forall_mem_cons, Option.mem_toList]
  refine ⟨⟨⟨?left, ?top, ?width, ?height, nofun⟩, ?z⟩, ?opacity⟩
  case left => exact .of_value (by decide) (length x (wordless.amount ["x"]) (by decide))
  case top => exact .of_value (by decide) (length y (wordless.amount ["y"]) (by decide))
  case width => exact .of_value (by decide) (length w (wordless.amount ["w"]) (by decide))
  case height => exact .of_value (by decide) (length h (wordless.amount ["h"]) (by decide))
  case z =>
    intro z given
    exact .of_value (by decide) (Reader.silent_amount (wordless.amount ["z"] z given))
  case opacity =>
    intro o given
    exact .of_value (by decide) (Reader.silent_amount (wordless.amount ["opacity"] o given))

theorem silent_font {t : Tokens} (tokens : t.Wordless)
    (full : ∀ v ∈ fontValues t (Shape.ofRecord r), v.holdsNull = false) :
    ∀ d ∈ font t (Shape.ofRecord r), d.Silent := by
  have family : ∀ f ∈ (Shape.ofRecord r).font, Silent f.toList :=
    or_of_forall (wordless.text ["text_font"]) (wordless.text ["font_family"])
  have color : ∀ c ∈ (Shape.ofRecord r).textFill, Silent c.toList :=
    or_of_forall (wordless.text ["text_color"]) (wordless.text ["color"])
  have size : ∀ a ∈ (Shape.ofRecord r).size, a.toJson.Wordless :=
    or_of_forall (wordless.amount ["text_size"]) (wordless.amount ["font_size"])
  have weight : ∀ a ∈ (Shape.ofRecord r).weight, a.toJson.Wordless :=
    or_of_forall (wordless.amount ["text_weight"]) (wordless.amount ["font_weight"])
  rw [fontValues, List.forall_mem_append, List.forall_mem_map, List.forall_mem_map] at full
  unfold font
  simp only [List.forall_mem_append, List.forall_mem_map]
  refine ⟨⟨⟨⟨⟨?family, ?size⟩, ?weight⟩, ?color⟩, ?align⟩, ?line⟩
  case family =>
    intro f member
    have spoken := tokens.font (family f (mem_of_filled member)) (full.1 f member)
    exact .of_value (by decide) spoken.style
  case size =>
    intro a member
    have number := Reader.silent_amount (size a (mem_of_setAmount member))
    refine .of_value (by decide) ?_
    rw [String.toList_append]
    exact silent_append number (by decide)
  case weight =>
    intro a member
    exact .of_value (by decide) (Reader.silent_amount (weight a (mem_of_setAmount member)))
  case color =>
    intro c member
    have spoken := tokens.color (color c (mem_of_filled member)) (full.2 c member)
    exact .of_value (by decide) spoken.style
  case align =>
    intro a member
    exact .of_value (by decide) (wordless.text ["text_align"] a (mem_of_filled member))
  case line =>
    intro a member
    have number := wordless.amount ["line_height"] a (mem_of_setAmount member)
    exact .of_value (by decide) (Reader.silent_amount number)

theorem silent_background : ∀ d ∈ background (Background.ofRecord r), d.Silent := by
  have text (spellings : List String) : Silent ((r.value? Reader.text spellings).getD "").toList :=
    getD_of_forall (wordless.text spellings) (by decide)
  have url : Silent (imageUrl ((Background.ofRecord r).image.getD "")).toList := by
    have sealed_quote : Sealed "%27".toList := by decide
    have escaped : Silent (String.ofList (replaceChar '\'' "%27".toList
        ((Background.ofRecord r).image.getD "").toList)).toList := by
      rw [String.toList_ofList]
      exact silent_replaceChar sealed_quote (text ["image"])
    rw [imageUrl, String.toList_append, String.toList_append, List.append_assoc]
    exact silent_append_of_not_mem (by decide) (silent_append escaped (by decide))
  unfold background
  dsimp only
  rw [List.forall_mem_append]
  constructor
  · split
    · exact nofun
    · exact List.forall_mem_singleton.mpr (.of_value (by decide) (text ["fill"]))
  · split
    · exact nofun
    · have fit : Silent (if (Background.ofRecord r).imageFit.getD "" = "" then "cover"
          else (Background.ofRecord r).imageFit.getD "").toList := by
        split
        · decide
        · exact text ["image_fit"]
      simp only [List.forall_mem_cons]
      exact ⟨.of_value (by decide) url, .of_value (by decide) fit, by decide, by decide, nofun⟩

end OfRecord

/-! ## The stylesheet -/

/-- The runs of a value between the characters that are taken out of it. -/
def runs (value : Json) : List (List Char) :=
  value.styleText.toList.splitOnP isUnsafe

/-- What is left of a text is its runs, and each of them stands in it. -/
theorem runs_split (p : Char → Bool) (text : List Char) : ∃ first others,
    text.splitOnP p = first :: others ∧ first <+: text ∧ (∀ run ∈ others, run <:+: text) ∧
      first ++ others.flatten = text.filter fun c => !p c := by
  induction text with
  | nil => exact ⟨[], [], List.splitOnP_nil, List.nil_prefix, nofun, rfl⟩
  | cons c rest ih =>
    obtain ⟨first, others, split, starts, inside, left⟩ := ih
    have later (run : List Char) (within : run <:+: rest) : run <:+: c :: rest :=
      List.infix_cons within
    rw [List.splitOnP_cons_eq_if_modifyHead, split]
    cases taken : p c with
    | true =>
      refine ⟨[], first :: others, by simp, List.nil_prefix, ?_, by simp [taken, left]⟩
      exact List.forall_mem_cons.mpr
        ⟨later first starts.isInfix, fun run member => later run (inside run member)⟩
    | false =>
      refine ⟨c :: first, others, by simp, List.cons_prefix_cons.mpr ⟨rfl, starts⟩, ?_,
        by simp [taken, left]⟩
      exact fun run member => later run (inside run member)

theorem toList_safeText (value : Json) : (safeText value).toList = (runs value).flatten := by
  obtain ⟨first, others, split, -, -, left⟩ := runs_split isUnsafe value.styleText.toList
  rw [safeText, String.toList_ofList, ← left, runs, split, List.flatten_cons]

theorem silent_runs {value : Json} (silent : Silent value.styleText.toList) :
    ∀ run ∈ runs value, Silent run := by
  obtain ⟨first, others, split, starts, inside, -⟩ := runs_split isUnsafe value.styleText.toList
  rw [runs, split, List.forall_mem_cons]
  exact ⟨silent.of_infix starts.isInfix, fun run member => silent.of_infix (inside run member)⟩

/-- The entries of the theme that stand in the stylesheet. -/
def pageValues (deck : Deck) : List Json :=
  [entryOr deck.fontTable "body" "Arial", entryOr deck.palette "bg" "#ffffff"]

/-- What stands next to each other in the stylesheet. -/
def pageSeams (deck : Deck) : List (List (List Char)) :=
  let unit := runs (.str deck.slideSize.unit)
  [runs deck.slideSize.w.toJson ++ unit, runs deck.slideSize.h.toJson ++ unit] ++
    (pageValues deck).map runs

theorem silent_entryOr {table : Record Json} (wordless : table.Wordless) {name default : String}
    (fallback : Silent default.toList) (full : (entryOr table name default).holdsNull = false) :
    Silent (entryOr table name default).styleText.toList := by
  unfold entryOr at full ⊢
  split
  · rename_i value found
    rw [found] at full
    split
    · rename_i set
      simp only [set, if_true] at full
      exact Json.silent_styleText value (wordless.get? found) full
    · exact (Json.silent_str fallback).style
  · exact (Json.silent_str fallback).style

theorem silent_safeText {value : Json} (silent : Silent value.styleText.toList)
    (seamless : Seamless (runs value)) : Silent (safeText value).toList := by
  rw [toList_safeText]
  exact seamless.silent (silent_runs silent)

theorem silent_extent {amount : Amount} (given : amount.toJson.Wordless) {unit : String}
    (plain : Silent unit.toList) (seamless : Seamless (runs amount.toJson ++ runs (.str unit))) :
    Silent (safeText amount.toJson ++ safeText (.str unit)).toList := by
  rw [String.toList_append, toList_safeText, toList_safeText, ← List.flatten_append]
  exact seamless.silent (List.forall_mem_append.mpr
    ⟨silent_runs (Reader.silent_amount given), silent_runs (Json.silent_str plain).style⟩)

section Rules

variable (deckClass : ClassName) (plain : Silent deckClass.text.toList)

include plain

theorem silent_scope : Silent ("." ++ deckClass.text).toList := by
  rw [String.toList_append]
  exact silent_append_of_not_mem (by decide) plain

theorem silent_rule {rest : String} {ds : Declarations} (ending : Guarded rest.toList)
    (silent : ∀ d ∈ ds, d.Silent) :
    Silent (Rule.mk ("." ++ deckClass.text ++ rest) ds).selector.toList ∧
      ∀ d ∈ (Rule.mk ("." ++ deckClass.text ++ rest) ds).declarations, d.Silent := by
  refine ⟨?_, silent⟩
  rw [String.toList_append]
  exact silent_append (silent_scope deckClass plain) ending

variable {deck : Deck} (wordless : deck.Wordless)
  (full : ∀ v ∈ pageValues deck, v.holdsNull = false)
  (seams : ∀ parts ∈ pageSeams deck, Seamless parts)

include wordless full seams

theorem silent_rules : ∀ rule ∈ rules deckClass deck, Silent rule.selector.toList ∧
    ∀ d ∈ rule.declarations, d.Silent := by
  simp only [pageValues, List.forall_mem_cons] at full
  obtain ⟨fontFull, colorFull, -⟩ := full
  simp only [pageSeams, pageValues, List.map_cons, List.map_nil, List.forall_mem_append,
    List.forall_mem_cons] at seams
  obtain ⟨⟨width, height, -⟩, fontSeams, colorSeams, -⟩ := seams
  have font := silent_safeText (silent_entryOr wordless.fonts (by decide) fontFull) fontSeams
  have color := silent_safeText (silent_entryOr wordless.palette (by decide) colorFull) colorSeams
  have family : ∀ d ∈ ([⟨"font-family", safeText (entryOr deck.fontTable "body" "Arial") ++
      ", sans-serif"⟩] : Declarations), d.Silent := by
    refine List.forall_mem_singleton.mpr (.of_value (by decide) ?_)
    rw [String.toList_append]
    exact silent_append font (by decide)
  have page : ∀ d ∈ ([⟨"width", safeText deck.slideSize.w.toJson ++
        safeText (.str deck.slideSize.unit)⟩,
      ⟨"height", safeText deck.slideSize.h.toJson ++ safeText (.str deck.slideSize.unit)⟩,
      ⟨"position", "relative"⟩, ⟨"overflow", "hidden"⟩, ⟨"isolation", "isolate"⟩,
      ⟨"background", safeText (entryOr deck.palette "bg" "#ffffff")⟩] : Declarations),
      d.Silent := by
    simp only [List.forall_mem_cons]
    exact ⟨.of_value (by decide) (silent_extent wordless.size.w wordless.size.unit width),
      .of_value (by decide) (silent_extent wordless.size.h wordless.size.unit height),
      by decide, by decide, by decide, .of_value (by decide) color, nofun⟩
  have rule {rest : String} {ds : Declarations} (ending : Guarded rest.toList)
      (silent : ∀ d ∈ ds, d.Silent) := silent_rule deckClass plain ending silent
  unfold rules
  simp only [List.forall_mem_cons (p := fun rule : Rule => Silent rule.selector.toList ∧
    ∀ d ∈ rule.declarations, d.Silent)]
  -- Of the rules that follow, all but the one for slides are fixed.
  refine ⟨rule (by decide) (by decide), ⟨silent_scope deckClass plain, family⟩,
    rule (by decide) page, ?_⟩
  refine ⟨rule (by decide) (by decide), rule (by decide) (by decide),
    rule (by decide) (by decide), rule (by decide) (by decide), rule (by decide) (by decide),
    rule (by decide) (by decide), rule (by decide) (by decide), rule (by decide) (by decide),
    rule (by decide) (by decide), nofun⟩

theorem silent_sheet : Silent (sheet deckClass deck).toList := by
  have each : ∀ s ∈ (rules deckClass deck).map Rule.text, Silent s.toList := by
    intro s member
    obtain ⟨rule, present, rfl⟩ := List.mem_map.mp member
    obtain ⟨selector, declarations⟩ :=
      silent_rules deckClass plain wordless full seams rule present
    have body : Guarded (" \x7b ".toList ++ ((Declarations.text rule.declarations).toList ++
        " \x7d".toList)) :=
      guarded_cons (by decide) (silent_append_of_not_mem (s := ['\x7b', ' ']) (by decide)
        (silent_append (Declarations.silent_text declarations) (by decide)))
    rw [Rule.text, String.toList_append, String.toList_append, String.toList_append,
      String.toList_append, List.append_assoc, List.append_assoc, List.append_assoc]
    exact silent_append_of_not_mem (by decide) (silent_append selector body)
  rw [sheet, String.toList_append, String.toList_append, List.append_assoc]
  refine silent_append_of_not_mem (by decide) (silent_append ?_ (by decide))
  exact silent_intercalate rfl (by decide) (by decide) each

end Rules

end Style

end DeckPress
