import DeckPress.Entity.Background
import DeckPress.Entity.Deck
import DeckPress.Entity.Shape
import DeckPress.Proofs.Entity.Reading
import DeckPress.Proofs.Json.Wording
import DeckPress.Proofs.Trace

/-!
What entities say. Whatever is read from a record in which the word for null does not stand is a
text without it, or a value in which it does not stand either. A null cannot be what is read: as a
field it counts as absent, and dashes with a null among them are refused.
-/

namespace DeckPress

open Record Text

/-! ## Records -/

namespace Record.Wordless

variable {r s : Record Json}

theorem mono (wordless : r.Wordless) (within : ∀ field ∈ s, field ∈ r) : s.Wordless :=
  fun field member => wordless field (within field member)

theorem get? (wordless : r.Wordless) {name : String} {value : Json}
    (found : r.get? name = some value) : value.Wordless :=
  (wordless _ (mem_of_get? found)).2

theorem overlay (below : r.Wordless) (above : s.Wordless) : (r.overlay s).Wordless :=
  fun field member => (mem_overlay member).elim (below field) (above field)

theorem withoutNulls (wordless : r.Wordless) : r.withoutNulls.Wordless :=
  wordless.mono fun _ member => List.mem_of_mem_filter member

theorem erase (wordless : r.Wordless) (name : String) : (r.erase name).Wordless :=
  wordless.mono fun _ member => List.mem_of_mem_filter member

theorem given? (wordless : r.Wordless) {name : String} {value : Json}
    (found : Json.given? r name = some value) : value.Wordless := by
  rw [Json.given?_eq] at found
  exact wordless.get? (Option.eq_some_of_filter_eq_some found)

theorem value? {α : Type} {P : α → Prop} {reader : Reader α} (wordless : r.Wordless)
    (reads : ∀ v a, v.Wordless → reader v = .ok a → P a) (spellings : List String) :
    ∀ a ∈ r.value? reader spellings, P a := by
  intro a found
  unfold Record.value? at found
  split at found
  · rename_i name value picked
    obtain ⟨_, _, here⟩ := List.exists_of_findSome?_eq_some picked
    obtain ⟨_, given, same⟩ := Option.map_eq_some_iff.mp here
    cases same
    exact reads value a (wordless.get? given) (eq_ok_of_toOption found)
  · cases found

end Record.Wordless

theorem Json.Wordless.fields? {v : Json} (wordless : v.Wordless) :
    (v.fields?.getD []).Wordless := by
  cases v with
  | obj fields => exact wordless_obj.mp wordless
  | _ => exact nofun

/-! ## Readers -/

namespace Reader

variable {v : Json}

theorem silent_text {s : String} (wordless : v.Wordless) (read : text v = .ok s) :
    Silent s.toList := by
  cases v with
  | str t =>
    cases read
    exact (Json.wordless_str.mp wordless).kept
  | int n =>
    cases read
    exact silent_of_not_mem (Decimal.not_mem_whole (by decide) n)
  | float x =>
    cases read
    exact silent_of_not_mem (Decimal.not_mem_write (by decide) x)
  | _ => cases read

theorem wordless_amount {a : Amount} (wordless : v.Wordless) (read : amount v = .ok a) :
    a.toJson.Wordless := by
  unfold amount at read
  split at read
  · cases read
    exact wordless
  · cases read
    exact wordless
  · cases read
    exact wordless
  · cases read
    exact nofun
  · cases read

theorem silent_amount {a : Amount} (wordless : a.toJson.Wordless) :
    Silent a.styleText.toList :=
  Json.silent_styleText a.toJson wordless (by cases a <;> rfl)

theorem silent_dashes {d : Dashes} (wordless : v.Wordless) (read : dashes v = .ok d) :
    Silent d.toJson.styleText.toList := by
  unfold dashes at read
  split at read
  · rename_i items
    split at read
    · cases read
      refine Json.silent_styleItems fun item member => ?_
      obtain ⟨a, found, rfl⟩ := List.mem_map.mp member
      obtain ⟨raw, present, done⟩ := List.mem_filterMap.mp found
      have known := Json.wordless_arr.mp wordless raw present
      exact silent_amount (wordless_amount known (eq_ok_of_toOption done))
    · cases read
  · split at read
    · rename_i s outcome
      cases read
      have silent := silent_text wordless outcome
      rwa [Dashes.toJson, Json.styleText_str]
    · cases read

theorem wordless_list {items : List Json} (wordless : v.Wordless) (read : list v = .ok items) :
    ∀ item ∈ items, item.Wordless := by
  cases v with
  | arr _ =>
    cases read
    exact Json.wordless_arr.mp wordless
  | _ => cases read

theorem wordless_table {fields : Record Json} (wordless : v.Wordless)
    (read : table v = .ok fields) : fields.Wordless := by
  cases v with
  | obj _ =>
    cases read
    exact Json.wordless_obj.mp wordless
  | _ => cases read

theorem wordless_collection {c : Collection} (wordless : v.Wordless)
    (read : collection v = .ok c) : c.toJson.Wordless := by
  cases v with
  | obj _ =>
    cases read
    exact wordless
  | arr _ =>
    cases read
    exact wordless
  | _ => cases read

theorem wordless_entity {α : Type} {P : α → Prop} {fields : List Field} {make : Record Json → α}
    (made : ∀ r : Record Json, r.Wordless → P (make r)) {a : α} (wordless : v.Wordless)
    (read : readEntity fields make v = .ok a) : P a := by
  cases v with
  | obj r =>
    obtain ⟨-, rfl⟩ := readEntity_ok read
    exact made _ (Json.wordless_obj.mp wordless).withoutNulls
  | _ => cases read

theorem read_of_entity {α : Type} {read : Json → Except Refusal α} {a : α}
    (done : entity read v = .ok a) : read v = .ok a := by
  unfold entity at done
  split at done
  · rename_i b outcome
    cases done
    exact outcome
  · cases done

end Reader

theorem getD_of_forall {α : Type} {P : α → Prop} {found : Option α} {default : α}
    (each : ∀ a ∈ found, P a) (fallback : P default) : P (found.getD default) := by
  cases found with
  | none => exact fallback
  | some a => exact each a rfl

/-! ## Entities -/

section Fields

variable {r : Record Json} (wordless : r.Wordless) (spellings : List String)

include wordless

theorem Record.Wordless.text : ∀ s ∈ r.value? Reader.text spellings, Silent s.toList :=
  wordless.value? (fun _ _ => Reader.silent_text) spellings

theorem Record.Wordless.amount : ∀ a ∈ r.value? Reader.amount spellings, a.toJson.Wordless :=
  wordless.value? (fun _ _ => Reader.wordless_amount) spellings

theorem Record.Wordless.list :
    ∀ item ∈ (r.value? Reader.list spellings).getD [], item.Wordless :=
  getD_of_forall (wordless.value? (fun _ _ => Reader.wordless_list) spellings) nofun

theorem Record.Wordless.table : ∀ t ∈ r.value? Reader.table spellings, t.Wordless :=
  wordless.value? (fun _ _ => Reader.wordless_table) spellings

theorem Record.Wordless.tableOr : ((r.value? Reader.table spellings).getD []).Wordless :=
  getD_of_forall (wordless.table spellings) nofun

theorem Record.Wordless.collection :
    ∀ c ∈ r.value? Reader.collection spellings, c.toJson.Wordless :=
  wordless.value? (fun _ _ => Reader.wordless_collection) spellings

end Fields

structure SlideSize.Wordless (size : SlideSize) : Prop where
  w : size.w.toJson.Wordless
  h : size.h.toJson.Wordless
  unit : Silent size.unit.toList

structure Theme.Wordless (theme : Theme) : Prop where
  colors : theme.colors.Wordless
  fonts : theme.fonts.Wordless

structure Layout.Wordless (layout : Layout) : Prop where
  bg : ∀ fields ∈ layout.bg, fields.Wordless
  shapes : ∀ c ∈ layout.shapes, c.toJson.Wordless

structure Master.Wordless (master : Master) : Prop where
  bg : ∀ fields ∈ master.bg, fields.Wordless
  shapes : ∀ c ∈ master.shapes, c.toJson.Wordless
  layouts : ∀ item ∈ master.layouts, item.Wordless

structure Slide.Wordless (slide : Slide) : Prop where
  id : ∀ s ∈ slide.id, Silent s.toList
  bg : ∀ fields ∈ slide.bg, fields.Wordless
  shapes : ∀ c ∈ slide.shapes, c.toJson.Wordless
  values : slide.values.Wordless
  overrides : ∀ patch ∈ slide.overrides, patch.Wordless

structure Deck.Wordless (deck : Deck) : Prop where
  id : ∀ s ∈ deck.id, Silent s.toList
  size : deck.slideSize.Wordless
  palette : deck.palette.Wordless
  fonts : deck.fontTable.Wordless
  layouts : ∀ c ∈ deck.layouts, c.toJson.Wordless
  masters : ∀ item ∈ deck.masters, item.Wordless
  shapes : ∀ c ∈ deck.shapes, c.toJson.Wordless
  bg : ∀ fields ∈ deck.bg, fields.Wordless
  slides : ∀ items ∈ deck.slides, ∀ item ∈ items, item.Wordless

section OfRecord

variable {r : Record Json}

theorem SlideSize.wordless_ofRecord (wordless : r.Wordless) : (SlideSize.ofRecord r).Wordless where
  w := getD_of_forall (wordless.amount ["w"]) nofun
  h := getD_of_forall (wordless.amount ["h"]) nofun
  unit := getD_of_forall (wordless.text ["unit"]) (by decide)

theorem Layout.wordless_ofRecord (wordless : r.Wordless) : (Layout.ofRecord r).Wordless where
  bg := wordless.table ["bg"]
  shapes := wordless.collection ["shapes"]

theorem Master.wordless_ofRecord (wordless : r.Wordless) : (Master.ofRecord r).Wordless where
  bg := wordless.table ["bg"]
  shapes := wordless.collection ["shapes"]
  layouts := wordless.list ["layouts"]

theorem Slide.wordless_ofRecord (wordless : r.Wordless) : (Slide.ofRecord r).Wordless where
  id := wordless.text ["id"]
  bg := wordless.table ["bg"]
  shapes := wordless.collection ["shapes"]
  values := wordless.tableOr ["meta"]
  overrides := wordless.list ["overrides"]

theorem Theme.wordless_ofRecord (wordless : r.Wordless) : (Theme.ofRecord r).Wordless where
  colors := wordless.tableOr ["colors"]
  fonts := wordless.tableOr ["fonts"]

theorem Deck.wordless_ofRecord (wordless : r.Wordless) : (Deck.ofRecord r).Wordless := by
  have empty : Record.Wordless [] := nofun
  have size : (Deck.ofRecord r).slideSize.Wordless := by
    refine getD_of_forall (wordless.value? ?_ _) (SlideSize.wordless_ofRecord empty)
    intro v a inner read
    exact Reader.wordless_entity (fun _ => SlideSize.wordless_ofRecord) inner
      (Reader.read_of_entity read)
  have theme : (Deck.ofRecord r).theme.Wordless := by
    refine getD_of_forall (wordless.value? ?_ _) (Theme.wordless_ofRecord empty)
    intro v a inner read
    exact Reader.wordless_entity (fun _ => Theme.wordless_ofRecord) inner
      (Reader.read_of_entity read)
  constructor
  case id => exact wordless.text ["id"]
  case size => exact size
  case palette => exact theme.colors.overlay (wordless.tableOr ["colors"])
  case fonts => exact theme.fonts.overlay (wordless.tableOr ["fonts"])
  case layouts => exact wordless.collection ["layouts"]
  case masters => exact wordless.list ["masters"]
  case shapes => exact wordless.collection ["shapes"]
  case bg => exact wordless.table ["bg"]
  case slides => exact wordless.value? (fun _ _ => Reader.wordless_list) ["slides"]

end OfRecord

end DeckPress
