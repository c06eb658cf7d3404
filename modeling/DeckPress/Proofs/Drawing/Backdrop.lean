import Mathlib.Data.Fintype.EquivFin
import DeckPress.Proofs.Cascade.Erasure
import DeckPress.Proofs.Cascade.Override
import DeckPress.Proofs.Cascade.Regroup
import DeckPress.Proofs.Drawing.Emptiness
import DeckPress.Proofs.Drawing.Plan

/-!
The background of a slide. Under each name it has the value of the most specific layer that gives
one, a null included, and it is painted when its texts can be read. A flag in a layer decides at
most whether a master's background is one of the layers. One more thing decides whether anything is
painted, names that hold half a pair.
-/

namespace DeckPress.Drawing

open Record Cascade

/-! ## Layers -/

def flagSet (layout : Layout) : Bool :=
  (layout.bg.bind fun bg => get? bg "inherit").any Json.truthy

theorem inherits_eq (layout : Layout) : inherits layout = flagSet layout := by
  unfold inherits flagSet
  cases layout.bg.bind fun bg => get? bg "inherit" <;> rfl

/-- The places from which a slide may take a background, the least specific first. -/
def backgroundPlaces (deck : Deck) (found : Resolved) (slide : Slide) :
    List (Option (Record Json)) :=
  [deck.bg, (found.master.filter fun _ => flagSet found.layout).bind (·.bg), found.layout.bg,
    slide.bg]

def backdrops (deck : Deck) (found : Resolved) (slide : Slide) : List (Record Json) :=
  (backgroundPlaces deck found slide).filterMap fun bg => bg.map ofEntries

theorem backgroundOf_eq (deck : Deck) (found : Resolved) (slide : Slide) :
    backgroundOf deck found slide =
      erase (overlayFields ((backgroundPlaces deck found slide).map layerOf)) "inherit" := by
  unfold backgroundOf backgroundPlaces
  rw [inherits_eq]
  cases found.master with
  | none => rfl
  | some master => cases flagSet found.layout <;> rfl

theorem get?_overlayFields (layers : List (Option (Record Json))) (name : String) :
    get? (overlayFields (layers.map layerOf)) name =
      top? (layers.filterMap fun bg => bg.map ofEntries) name := by
  rw [overlayFields_eq, get?_ofEntries]
  induction layers using List.reverseRecOn with
  | nil => rfl
  | append_singleton layers bg ih =>
    rw [List.map_append, List.flatMap_append, last?_append, ih, List.filterMap_append, top?_append]
    cases bg with
    | none => rfl
    | some fields =>
      have own : last? ([Drawing.layerOf (some fields)].flatMap fieldsOf) name =
          top? [ofEntries fields] name := by
        rw [top?_singleton, get?_ofEntries]
        simp [Drawing.layerOf, fieldsOf, Json.fields?]
      rw [List.map_singleton, own]
      rfl

/-- Under each name but the flag's stands the value of the most specific layer that gives one. -/
theorem get?_backgroundOf (deck : Deck) (found : Resolved) (slide : Slide) {name : String}
    (other : name ≠ "inherit") :
    get? (backgroundOf deck found slide) name = top? (backdrops deck found slide) name := by
  rw [backgroundOf_eq, get?_erase, if_neg other, get?_overlayFields]
  rfl

/-! ## What is painted -/

/-- Some name that holds half a pair has a value. -/
def Torn (values : String → Option Json) : Prop :=
  ∃ name value, Text.hasHalf name = true ∧ values name = some value ∧ value ≠ .null

/-- The text under a name, if there is none or it can be read. A null counts as none. -/
def textUnder (values : String → Option Json) (name : String) : Except Nat (Option String) :=
  Reader.optional Reader.text ((values name).getD .null)

/-- What is painted of given values: nothing if there is a text among the three that cannot be
read. -/
def paintOf (values : String → Option Json) : Declarations :=
  match textUnder values "fill", textUnder values "image", textUnder values "image_fit" with
  | .ok fill, .ok image, .ok imageFit =>
    Style.background { fill, image, imageFit, inherit := false }
  | _, _, _ => []

theorem torn_withoutNulls {r : Record Json} (distinct : r.Distinct) :
    r.withoutNulls.keys.any Text.hasHalf = true ↔ Torn r.get? := by
  simp only [List.any_eq_true, mem_keys_iff, get?_withoutNulls distinct, Json.given?_eq, Torn]
  constructor
  · rintro ⟨name, present, half⟩
    obtain ⟨value, given⟩ := Option.isSome_iff_exists.mp present
    obtain ⟨found, filled⟩ := Option.filter_eq_some_iff.mp given
    exact ⟨name, value, half, found, by rintro rfl; cases filled⟩
  · rintro ⟨name, value, half, found, filled⟩
    refine ⟨name, ?_, half⟩
    rw [found, Option.filter_some, if_pos, Option.isSome_some]
    cases value with
    | null => exact absurd rfl filled
    | _ => rfl

theorem faultsOf_background {r : Record Json} (distinct : r.Distinct)
    (plain : get? r "inherit" = none) :
    Field.faultsOf Background.fields r.withoutNulls = [] ↔ Returns (textUnder r.get? "fill") ∧
      Returns (textUnder r.get? "image") ∧ Returns (textUnder r.get? "image_fit") := by
  have flag : (Field.may ["inherit"] Reader.flag).fault? r.withoutNulls = none := by
    have own : (Field.may ["inherit"] Reader.flag).spellings = ["inherit"] := rfl
    rw [Field.fault?, own, pick?_singleton, get?_withoutNulls distinct, Json.given?_eq, plain]
    rfl
  have text (name : String) : (Field.may [name] Reader.text).fault? r.withoutNulls = none ↔
      Returns (textUnder r.get? name) :=
    Field.fault?_withoutNulls Reader.counts_text distinct
  rw [Field.faultsOf, List.filterMap_eq_nil_iff, Background.fields]
  simp only [List.forall_mem_cons, List.not_mem_nil, false_implies, implies_true, and_true, text,
    flag]

theorem painted_eq {r : Record Json} (distinct : r.Distinct) (plain : get? r "inherit" = none)
    (whole : ¬ Torn r.get?) : painted r = paintOf r.get? := by
  have names : r.withoutNulls.keys.any Text.hasHalf = false := by
    rw [← Bool.not_eq_true, torn_withoutNulls distinct]
    exact whole
  have read : Background.read (.obj r) =
      Field.build Background.fields Background.ofRecord r.withoutNulls := by
    simp only [Background.read, readEntity, names, Bool.false_eq_true, if_false]
  have clean := faultsOf_background distinct plain
  rw [painted, read, Field.build, paintOf]
  by_cases readable : Returns (textUnder r.get? "fill") ∧ Returns (textUnder r.get? "image") ∧
      Returns (textUnder r.get? "image_fit")
  · rw [clean.mpr readable]
    obtain ⟨⟨fill, one⟩, ⟨image, two⟩, ⟨fit, three⟩⟩ := readable
    have flag : Reader.optional Reader.flag ((get? r "inherit").getD .null) = .ok none := by
      rw [plain]
      rfl
    have whole_record : Background.ofRecord r.withoutNulls = ⟨fill, image, fit, false⟩ := by
      rw [Background.ofRecord, value?_withoutNulls distinct one, value?_withoutNulls distinct two,
        value?_withoutNulls distinct three, value?_withoutNulls distinct flag]
      rfl
    rw [one, two, three]
    exact congrArg Style.background whole_record
  · split
    · rename_i b built
      split at built
      · rename_i none_found
        exact absurd (clean.mp none_found) readable
      · cases built
    · split
      · rename_i one two three
        exact absurd ⟨⟨_, one⟩, ⟨_, two⟩, ⟨_, three⟩⟩ readable
      · rfl

theorem painted_torn {r : Record Json} (distinct : r.Distinct) (torn : Torn r.get?) :
    painted r = [] := by
  have read : Background.read (.obj r) = .error .brokenName := by
    simp only [Background.read, readEntity, (torn_withoutNulls distinct).mpr torn, if_true]
  rw [painted, read]

theorem distinct_backgroundOf (deck : Deck) (found : Resolved) (slide : Slide) :
    Distinct (backgroundOf deck found slide) := by
  have names : Distinct (overlayFields ((backgroundPlaces deck found slide).map layerOf)) := by
    rw [overlayFields_eq]
    exact distinct_ofEntries _
  rw [backgroundOf_eq]
  exact List.Nodup.sublist (List.filter_sublist.map Prod.fst) names

theorem flagless_backgroundOf {deck : Deck} {found : Resolved} {slide : Slide} :
    get? (backgroundOf deck found slide) "inherit" = none := by
  rw [backgroundOf_eq, get?_erase, if_pos rfl]

def AlikeBesideFlag (values others : String → Option Json) : Prop :=
  ∀ name ≠ "inherit", values name = others name

theorem AlikeBesideFlag.torn {values others : String → Option Json}
    (alike : AlikeBesideFlag values others) : Torn values ↔ Torn others := by
  refine exists_congr fun name => exists_congr fun value => and_congr_right fun half => ?_
  rw [alike name fun same => absurd half (same ▸ by decide)]

theorem AlikeBesideFlag.paintOf {values others : String → Option Json}
    (alike : AlikeBesideFlag values others) : paintOf values = paintOf others := by
  unfold Drawing.paintOf textUnder
  rw [alike "fill" (by decide), alike "image" (by decide), alike "image_fit" (by decide)]

theorem alike_top {layers others : List (Record Json)}
    (alike : List.Forall₂ (fun a b => AlikeBesideFlag a.get? b.get?) layers others) :
    AlikeBesideFlag (top? layers) (top? others) := by
  intro name other
  induction alike with
  | nil => rfl
  | @cons layer layer' rest rest' first _ ih =>
    have split := top?_append [layer] rest name
    have split' := top?_append [layer'] rest' name
    rw [List.singleton_append] at split split'
    rw [split, split', top?_singleton, top?_singleton, ih, first name other]

theorem alike_backgroundOf (deck : Deck) (found : Resolved) (slide : Slide) :
    AlikeBesideFlag (get? (backgroundOf deck found slide)) (top? (backdrops deck found slide)) :=
  fun _ => get?_backgroundOf deck found slide

section Painted

variable {deck : Deck} {found : Resolved} {slide : Slide}

theorem painted_backgroundOf (whole : ¬ Torn (top? (backdrops deck found slide))) :
    painted (backgroundOf deck found slide) = paintOf (top? (backdrops deck found slide)) := by
  have alike := alike_backgroundOf deck found slide
  rw [painted_eq (distinct_backgroundOf deck found slide) flagless_backgroundOf
    (fun torn => whole (alike.torn.mp torn)), alike.paintOf]

theorem painted_backgroundOf_torn (torn : Torn (top? (backdrops deck found slide))) :
    painted (backgroundOf deck found slide) = [] :=
  painted_torn (distinct_backgroundOf deck found slide)
    ((alike_backgroundOf deck found slide).torn.mpr torn)

end Painted

/-- A slide is painted by the values that its layers give, where the most specific one counts. Its
flags have no part in this, and only a name that holds half a pair keeps it from being painted. -/
theorem backgroundDeclarations_cascaded (deck : Deck) (found : Resolved) (slide : Slide) :
    (¬ Torn (top? (backdrops deck found slide)) →
      (backgroundDeclarations slide (backgroundOf deck found slide) :
        Trace NumberError Declarations).outcome =
          .ok (paintOf (top? (backdrops deck found slide)))) ∧
    (Torn (top? (backdrops deck found slide)) →
      (backgroundDeclarations slide (backgroundOf deck found slide) :
        Trace NumberError Declarations).outcome = .ok []) ∧
    ∀ (other : Deck) (found' : Resolved) (slide' : Slide),
      List.Forall₂ (fun a b => AlikeBesideFlag a.get? b.get?)
        (backdrops deck found slide) (backdrops other found' slide') →
      (backgroundDeclarations slide' (backgroundOf other found' slide') :
        Trace NumberError Declarations).outcome =
      (backgroundDeclarations slide (backgroundOf deck found slide)).outcome := by
  simp only [outcome_backgroundDeclarations_eq]
  refine ⟨fun whole => congrArg _ (painted_backgroundOf whole),
    fun torn => congrArg _ (painted_backgroundOf_torn torn), ?_⟩
  intro other found' slide' alike
  have values := alike_top alike
  by_cases torn : Torn (top? (backdrops deck found slide))
  · rw [painted_backgroundOf_torn torn,
      painted_backgroundOf_torn (values.torn.mp torn)]
  · rw [painted_backgroundOf torn,
      painted_backgroundOf fun there => torn (values.torn.mpr there), values.paintOf]

/-- A null takes away what lies below it, and a flag that cannot be read does no harm. -/
example : paintOf (top? [[("fill", .str "white"), ("image", .str "sky.png")],
    [("image", .null), ("inherit", .str "maybe")]]) = [⟨"background-color", "white"⟩] :=
  rfl

/-! A slide without a background of its own, in whose layout a name beside the colour holds half a
pair. -/

def tornLayout : Layout :=
  .ofRecord [("bg", .obj [("fill", .str "red"), (halfName, .int 1)])]

theorem backgroundDeclarations_torn :
    paintOf (top? (backdrops (.ofRecord []) ⟨none, tornLayout⟩ (.ofRecord []))) =
      [⟨"background-color", "red"⟩] ∧
    (backgroundDeclarations (.ofRecord []) (backgroundOf (.ofRecord []) ⟨none, tornLayout⟩
      (.ofRecord [])) : Trace NumberError Declarations).outcome = .ok [] := by
  constructor
  · rfl
  · rw [outcome_backgroundDeclarations_eq]
    refine congrArg _ (painted_backgroundOf_torn ⟨halfName, .int 1, by decide, ?_, nofun⟩)
    rfl

/-! ## The background of a master -/

/-- The background of a master takes part in that of a slide: the slide would have another one with
another background there. -/
def TakesPart (deck : Deck) (found : Resolved) (slide : Slide) : Prop :=
  ∃ master bg, found.master = some master ∧
    backgroundOf deck { found with master := some { master with bg := bg } } slide ≠
      backgroundOf deck found slide

theorem takesPart_iff_flagSet {deck : Deck} {found : Resolved} {slide : Slide} {master : Master}
    (mastered : found.master = some master) :
    TakesPart deck found slide ↔ flagSet found.layout = true := by
  constructor
  · rintro ⟨master, bg, own, differs⟩
    by_contra apart
    refine differs ?_
    rw [backgroundOf_eq, backgroundOf_eq, backgroundPlaces, backgroundPlaces, own,
      Option.filter_some, Option.filter_some, if_neg apart, if_neg apart]
  · intro flagged
    -- A name that is new to the background comes into it through that of the master.
    obtain ⟨name, fresh⟩ := Infinite.exists_notMem_finset
      ("inherit" :: (backgroundOf deck found slide).keys).toFinset
    rw [List.mem_toFinset, List.mem_cons, not_or, mem_keys_iff] at fresh
    refine ⟨master, some [(name, .null)], mastered, fun same => fresh.2 ?_⟩
    have listed : ofEntries [(name, .null)] ∈ backdrops deck
        { found with master := some { master with bg := some [(name, .null)] } } slide := by
      refine List.mem_filterMap.mpr ⟨some [(name, .null)], ?_, rfl⟩
      refine List.mem_cons_of_mem _ (List.mem_cons.mpr (.inl ?_))
      rw [Option.filter_some, if_pos flagged]
      rfl
    rw [← same, get?_backgroundOf _ _ _ fresh.1]
    exact top?_isSome listed (by simp [get?_ofEntries, last?, get?])

/-! ## Flags -/

theorem flagSet_iff {layout : Layout} {bg : Record Json} {b : Background}
    (own : layout.bg = some bg) (distinct : bg.Distinct) (read : Background.read (.obj bg) = .ok b) :
    flagSet layout = true ↔ b.inherit = true ∨
      ∃ word, get? bg "inherit" = some (.str word) ∧ Reader.flagWord? word = some false := by
  obtain ⟨clean, rfl⟩ := readEntity_ok read
  have sound : (Field.may ["inherit"] Reader.flag).fault? bg.withoutNulls = none :=
    List.filterMap_eq_nil_iff.mp clean _ (by simp [Background.fields])
  obtain ⟨flag, reading⟩ := (Field.fault?_withoutNulls Reader.counts_flag distinct).mp sound
  have validated : (Background.ofRecord bg.withoutNulls).inherit = flag.getD false :=
    congrArg (·.getD false) (value?_withoutNulls distinct reading)
  rw [validated, flagSet, own, Option.bind_some]
  cases found : get? bg "inherit" with
  | none =>
    rw [found] at reading
    cases reading
    simp
  | some value =>
    rw [found, Option.getD_some] at reading
    rcases eq_or_ne value .null with rfl | filled
    · cases reading
      simp [Json.truthy]
    · rw [Reader.optional_of_ne Reader.flag filled] at reading
      obtain ⟨on, own, rfl⟩ := map_eq_ok.mp reading
      have counts := Reader.truthy_of_flag own
      simpa using counts

theorem master_of_lookUp {slide : Slide} {deck : Deck} {found : Resolved}
    (resolved : lookUp .masterList slide deck = .ok (some found)) :
    ∃ master, found.master = some master := by
  unfold lookUp at resolved
  dsimp only at resolved
  split at resolved
  · cases resolved
  · obtain ⟨master, -, next⟩ := bind_eq_ok.mp resolved
    split at next
    · cases next
    · obtain ⟨layout, -, same⟩ := bind_eq_ok.mp next
      cases same
      exact ⟨master, rfl⟩

/-- The background of a master takes part exactly when the flag of the layout is read as on, or is
spelled with a word for off. -/
theorem takesPart_iff {deck : Deck} {slide : Slide} {found : Resolved} {bg : Record Json}
    {b : Background} (resolved : lookUp .masterList slide deck = .ok (some found))
    (own : found.layout.bg = some bg) (distinct : bg.Distinct)
    (read : Background.read (.obj bg) = .ok b) :
    TakesPart deck found slide ↔ b.inherit = true ∨
      ∃ word, get? bg "inherit" = some (.str word) ∧ Reader.flagWord? word = some false := by
  obtain ⟨master, mastered⟩ := master_of_lookUp resolved
  exact (takesPart_iff_flagSet mastered).trans (flagSet_iff own distinct read)

/-! A slide whose layout has nothing but a flag in its background. -/

def flaggedLayout (flag : Json) : Record Json :=
  [("id", .str "plain"), ("bg", .obj [("inherit", flag)])]

def flaggedMaster (flag : Json) : Record Json :=
  [("id", .str "main"), ("bg", .obj [("fill", .str "red")]),
    ("layouts", .arr [.obj (flaggedLayout flag)])]

def flaggedDeck (flag : Json) : Deck :=
  .ofRecord [("masters", .arr [.obj (flaggedMaster flag)])]

def flaggedSlide : Slide :=
  .ofRecord [("layout", .str "plain"), ("master", .str "main")]

def flaggedPlace (flag : Json) : Resolved :=
  ⟨some (.ofRecord (flaggedMaster flag)), .ofRecord (flaggedLayout flag)⟩

theorem takesPart_yes :
    lookUp .masterList flaggedSlide (flaggedDeck (.str "YES")) =
      .ok (some (flaggedPlace (.str "YES"))) ∧
    Background.read (.obj [("inherit", .str "YES")]) = .ok ⟨none, none, none, true⟩ ∧
    TakesPart (flaggedDeck (.str "YES")) (flaggedPlace (.str "YES")) flaggedSlide := by
  have resolved : lookUp .masterList flaggedSlide (flaggedDeck (.str "YES")) =
      .ok (some (flaggedPlace (.str "YES"))) := rfl
  have read : Background.read (.obj [("inherit", .str "YES")]) = .ok ⟨none, none, none, true⟩ := rfl
  have distinct : Distinct [("inherit", Json.str "YES")] := List.nodup_singleton _
  exact ⟨resolved, read, (takesPart_iff resolved rfl distinct read).mpr (.inl rfl)⟩

theorem takesPart_false :
    lookUp .masterList flaggedSlide (flaggedDeck (.str "false")) =
      .ok (some (flaggedPlace (.str "false"))) ∧
    Background.read (.obj [("inherit", .str "false")]) = .ok ⟨none, none, none, false⟩ ∧
    TakesPart (flaggedDeck (.str "false")) (flaggedPlace (.str "false")) flaggedSlide :=
  ⟨rfl, rfl, (takesPart_iff_flagSet rfl).mpr rfl⟩

end DeckPress.Drawing
