import DeckPress.Proofs.Drawing.Alike

/-!
What a convention takes no notice of. A deck of the mastered convention is drawn without its own
layouts and its version, and of its colours and fonts only those of the page count; a deck of the
keyed convention is drawn without its masters. Two decks are compared, and what is left out of one
of them may be anything in the other, valid or not.
-/

namespace DeckPress.Drawing

open Record

/-- Documents that have the same under all names but some. A null counts as absent. -/
def SameBeside (apart : List String) (r s : Record Json) : Prop :=
  ∀ name, name ∉ apart → get? (withoutNulls s) name = get? (withoutNulls r) name

namespace SameBeside

variable {apart : List String} {r s : Record Json}

theorem mono {wider : List String} (same : SameBeside apart r s) (within : apart ⊆ wider) :
    SameBeside wider r s :=
  fun name other => same name fun listed => other (within listed)

theorem value? {α : Type} (same : SameBeside apart r s) (reader : Reader α) {name : String}
    (kept : name ∉ apart) :
    (withoutNulls s).value? reader [name] = (withoutNulls r).value? reader [name] := by
  rw [value?_singleton, value?_singleton, same name kept]

theorem broken (same : SameBeside apart r s) (whole : ∀ name ∈ apart, Text.hasHalf name = false) :
    (withoutNulls s).keys.any Text.hasHalf = (withoutNulls r).keys.any Text.hasHalf := by
  rw [Bool.eq_iff_iff, List.any_eq_true, List.any_eq_true]
  have member (name : String) (half : Text.hasHalf name = true) :
      name ∈ (withoutNulls s).keys ↔ name ∈ (withoutNulls r).keys := by
    have kept : name ∉ apart := by
      intro listed
      rw [whole name listed] at half
      cases half
    rw [mem_keys_iff, mem_keys_iff, same name kept]
  constructor
  · rintro ⟨name, present, half⟩
    exact ⟨name, (member name half).mp present, half⟩
  · rintro ⟨name, present, half⟩
    exact ⟨name, (member name half).mpr present, half⟩

theorem ofRecord (same : SameBeside ["masters", "slides"] r s) :
    Deck.ofRecord (withoutNulls s) =
      { Deck.ofRecord (withoutNulls r) with
        masters := (Deck.ofRecord (withoutNulls s)).masters
        slides := (Deck.ofRecord (withoutNulls s)).slides } := by
  have kept {α : Type} (reader : Reader α) (name : String) (other : name ∉ ["masters", "slides"]) :
      (withoutNulls s).value? reader [name] = (withoutNulls r).value? reader [name] :=
    same.value? reader other
  unfold Deck.ofRecord
  rw [kept _ "id" (by decide), kept _ "version" (by decide), kept _ "slide_size" (by decide),
    kept _ "colors" (by decide), kept _ "fonts" (by decide), kept _ "theme" (by decide),
    kept _ "layouts" (by decide), kept _ "shapes" (by decide), kept _ "bg" (by decide)]

theorem reading? (same : SameBeside apart r s) (whole : ∀ name ∈ apart, Text.hasHalf name = false)
    (slides : "slides" ∉ apart) :
    Option.Rel (fun deck other => deck = Deck.ofRecord (withoutNulls r) ∧
        other = Deck.ofRecord (withoutNulls s))
      (Deck.reading? (.obj r)) (Deck.reading? (.obj s)) := by
  unfold Deck.reading?
  dsimp only
  rw [same.broken whole, same "slides" slides]
  split
  · exact .none
  · split
    · exact .some ⟨rfl, rfl⟩
    · exact .some ⟨rfl, rfl⟩
    · exact .none

end SameBeside

/-- What the mastered convention has no use for, but for two entries of the tables. -/
def unmastered : List String :=
  ["layouts", "version", "colors", "fonts", "theme"]

section Isolation

variable {policy : RenderPolicy} {r s : Record Json}

theorem alikeDecks_mastered (lookup : policy.layoutLookup = .masterList)
    (literal : policy.tokenResolution = false) (unchecked : policy.checkVersion = false)
    (same : SameBeside unmastered r s) {deck other : Deck}
    (left : deck = Deck.ofRecord (withoutNulls r)) (right : other = Deck.ofRecord (withoutNulls s))
    (color : get? other.palette "bg" = get? deck.palette "bg")
    (font : get? other.fontTable "body" = get? deck.fontTable "body") :
    AlikeDecks policy deck other := by
  have kept {α : Type} (reader : Reader α) (name : String) (apart : name ∉ unmastered) :
      (withoutNulls s).value? reader [name] = (withoutNulls r).value? reader [name] :=
    same.value? reader apart
  have masters : other.masters = deck.masters := by
    rw [left, right]
    exact congrArg (·.getD []) (kept Reader.list "masters" (by decide))
  have slides : other.slides = deck.slides := by
    rw [left, right]
    exact kept Reader.list "slides" (by decide)
  have shapes : other.shapes = deck.shapes := by
    rw [left, right]
    exact kept Reader.collection "shapes" (by decide)
  have bg : other.bg = deck.bg := by
    rw [left, right]
    exact kept Reader.table "bg" (by decide)
  have found (slide : Slide) :
      resolved? .masterList slide other = resolved? .masterList slide deck := by
    simp only [resolved?, masters]
  constructor
  case id =>
    rw [left, right]
    exact kept Reader.text "id" (by decide)
  case version =>
    intro checked
    rw [unchecked] at checked
    cases checked
  case size =>
    rw [left, right]
    exact congrArg (·.getD (SlideSize.ofRecord []))
      (kept (Reader.entity SlideSize.read) "slide_size" (by decide))
  case color => exact color
  case font => exact font
  case tokens => exact alikeTokens_of_disabled literal literal
  case plans =>
    rw [lookup, plans?_congr slides shapes bg found]
    exact plans_refl _

theorem alikeDecks_keyed (lookup : policy.layoutLookup = .map)
    (same : SameBeside ["masters"] r s) {deck other : Deck}
    (left : deck = Deck.ofRecord (withoutNulls r))
    (right : other = Deck.ofRecord (withoutNulls s)) : AlikeDecks policy deck other := by
  -- Nothing but the masters differs, and no layout is looked for in them.
  have slides : other.slides = deck.slides := by
    rw [left, right]
    exact same.value? Reader.list (show "slides" ∉ ["masters"] by decide)
  have rest : other = { deck with masters := other.masters } := by
    rw [← slides, left, right]
    exact (same.mono (by decide)).ofRecord
  rw [rest]
  constructor
  case plans =>
    rw [lookup]
    exact plans_refl _
  case tokens => exact ⟨fun _ => rfl, fun _ => rfl⟩
  all_goals first | rfl | exact fun _ => rfl

/-- Each convention draws a deck without regard to what belongs to the other one. -/
theorem render_isolated (policy : RenderPolicy) :
    (policy.layoutLookup = .masterList → policy.tokenResolution = false →
      policy.checkVersion = false → ∀ (r s : Record Json) (deck other : Deck),
      Deck.reading? (.obj r) = some deck → Deck.reading? (.obj s) = some other →
      SameBeside unmastered r s →
      get? other.palette "bg" = get? deck.palette "bg" →
      get? other.fontTable "body" = get? deck.fontTable "body" →
      (render policy (.obj s)).outcome = (render policy (.obj r)).outcome) ∧
    (policy.layoutLookup = .map → ∀ r s : Record Json, SameBeside ["masters"] r s →
      (render policy (.obj s)).outcome = (render policy (.obj r)).outcome) := by
  constructor
  · intro lookup literal unchecked r s deck other left right same color font
    obtain ⟨_, whole, -, made⟩ := Deck.reading?_eq_some left
    cases whole
    obtain ⟨_, whole, -, madeOther⟩ := Deck.reading?_eq_some right
    cases whole
    apply outcome_render_alike
    rw [left, right]
    exact .some (alikeDecks_mastered lookup literal unchecked same made madeOther color font)
  · intro lookup r s same
    refine outcome_render_alike (related_imp ?_ (same.reading? (by decide) (by decide)))
    rintro deck other ⟨left, right⟩
    exact alikeDecks_keyed lookup same left right

/-! Two decks of the mastered convention with different tables, and two of the keyed one, of which
the second has masters that are none. -/

def isolatedSlides : Json :=
  .arr [.obj [("master", .str "m"), ("layout", .str "plain"),
    ("shapes", .obj [("title", .obj [("text", .str "Hi"), ("text_color", .str "brand")])])]]

def isolatedMasters : Json :=
  .arr [.obj [("id", .str "m"), ("layouts", .arr [.obj [("id", .str "plain")]])]]

def flatDeck : Record Json :=
  [("masters", isolatedMasters), ("slides", isolatedSlides), ("version", .str "7.0"),
    ("colors", .obj [("bg", .str "#eeeeee"), ("brand", .str "red")])]

def themedDeck : Record Json :=
  [("masters", isolatedMasters), ("slides", isolatedSlides),
    ("theme", .obj [("colors", .obj [("bg", .str "#eeeeee")])])]

def layoutDeck (masters : Json) : Record Json :=
  [("masters", masters), ("layouts", .obj [("plain", .obj [])]), ("slides", isolatedSlides)]

theorem render_isolated_themed :
    (render .mastered (.obj themedDeck)).outcome = (render .mastered (.obj flatDeck)).outcome ∧
    (render .keyed (.obj (layoutDeck (.int 3)))).outcome =
      (render .keyed (.obj (layoutDeck isolatedMasters))).outcome := by
  constructor
  · refine (render_isolated .mastered).1 rfl rfl rfl flatDeck themedDeck _ _ rfl rfl ?_ rfl rfl
    intro name other
    simp only [unmastered, List.mem_cons, List.not_mem_nil, or_false, not_or] at other
    obtain ⟨-, version, colors, -, theme⟩ := other
    change get? themedDeck name = get? flatDeck name
    simp [themedDeck, flatDeck, get?, Ne.symm version, Ne.symm colors, Ne.symm theme]
  · refine (render_isolated .keyed).2 rfl _ _ fun name other => ?_
    have masters : "masters" ≠ name := fun same => other (same ▸ List.mem_singleton.mpr rfl)
    change get? (layoutDeck (.int 3)) name = get? (layoutDeck isolatedMasters) name
    simp [layoutDeck, get?, masters]

end Isolation

end DeckPress.Drawing
