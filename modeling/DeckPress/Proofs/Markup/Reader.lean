import DeckPress.Markup.Tree
import DeckPress.Proofs.Markup.Page
import DeckPress.Proofs.Text.Escape

/-!
Markup that is written is read back as it was. Values and texts are escaped, so none of them ends
before its end; the one condition is on the rules of style elements, which are written as they
stand.
-/

namespace DeckPress

namespace Markup

mutual

/-- A tree and all in it, each part before its children. -/
def parts : Markup → List Markup
  | .element tag attributes children => .element tag attributes children :: partsAll children
  | m => [m]

def partsAll : List Markup → List Markup
  | [] => []
  | m :: rest => parts m ++ partsAll rest

end

theorem mem_partsAll {part : Markup} {ms : List Markup} :
    part ∈ partsAll ms ↔ ∃ m ∈ ms, part ∈ m.parts := by
  induction ms with
  | nil => simp [partsAll]
  | cons m rest ih => simp [partsAll, ih]

end Markup

namespace Page

/-! ## Runs -/

/-- A reader gets from one state to another over some characters. -/
def Reads (s : State) (chars : List Char) (t : State) : Prop :=
  chars.foldlM State.step s = some t

theorem reads_nil (s : State) : Reads s [] s :=
  rfl

theorem Reads.cons {s t u : State} {c : Char} {chars : List Char} (first : s.step c = some t)
    (rest : Reads t chars u) : Reads s (c :: chars) u := by
  unfold Reads
  rw [List.foldlM_cons, first]
  exact rest

theorem Reads.append {s t u : State} {xs ys : List Char} (first : Reads s xs t)
    (rest : Reads t ys u) : Reads s (xs ++ ys) u := by
  unfold Reads
  rw [List.foldlM_append, show xs.foldlM State.step s = some t from first]
  exact rest

variable {opened : List (StartTag × List Node)} {nodes : List Node}

theorem reads_text (chars : List Char) (plain : '<' ∉ chars) (nodes : List Node) :
    Reads ⟨opened, nodes, .content⟩ chars ⟨opened, chars.foldl push nodes, .content⟩ := by
  induction chars generalizing nodes with
  | nil => exact reads_nil _
  | cons c rest ih =>
    rw [List.mem_cons, not_or] at plain
    exact Reads.cons (if_neg (Ne.symm plain.1)) (ih plain.2 _)

theorem reads_gathered (mode : List Char → Mode) (kind : Char → Prop)
    (gathers : ∀ c chars, (∀ x ∈ c :: chars, kind x) →
      State.step ⟨opened, nodes, mode chars⟩ c = some ⟨opened, nodes, mode (c :: chars)⟩)
    (chars : List Char) (all : ∀ x ∈ chars, kind x)
    (before : List Char) (all_before : ∀ x ∈ before, kind x) :
    Reads ⟨opened, nodes, mode before⟩ chars ⟨opened, nodes, mode (chars.reverse ++ before)⟩ := by
  induction chars generalizing before with
  | nil => exact reads_nil _
  | cons c rest ih =>
    rw [List.forall_mem_cons] at all
    have more : ∀ x ∈ c :: before, kind x := List.forall_mem_cons.mpr ⟨all.1, all_before⟩
    rw [List.reverse_cons, List.append_assoc]
    -- A mode may look back at what it has gathered, so all of that is kept to be of the kind.
    exact Reads.cons (gathers c before more) (ih all.2 (c :: before) more)

/-! ## Tags -/

def written (a : Attribute) : String × List Char :=
  (a.name.text, Text.escapeChars a.value.toList)

def IsName (name : String) : Prop :=
  name.toList ≠ [] ∧ name.toList.all isLetter = true

instance (name : String) : Decidable (IsName name) :=
  inferInstanceAs (Decidable (_ ∧ _))

theorem IsName.letters {name : String} (named : IsName name) :
    ∀ c ∈ name.toList, isLetter c = true :=
  List.all_eq_true.mp named.2

theorem isName_attribute (name : AttributeName) : IsName name.text := by
  cases name <;> decide

theorem isName_tag (tag : Tag) : IsName tag.name := by
  cases tag <;> decide

theorem reads_value (tag : StartTag) (key : String) (chars : List Char) (plain : '"' ∉ chars) :
    Reads ⟨opened, nodes, .value tag key []⟩ (chars ++ ['"'])
      ⟨opened, nodes, .spaced ⟨tag.name, tag.attributes ++ [(key, chars)]⟩⟩ := by
  have gathered : Reads ⟨opened, nodes, .value tag key []⟩ chars
      ⟨opened, nodes, .value tag key (chars.reverse ++ [])⟩ :=
    reads_gathered (.value tag key) (· ≠ '"')
      (fun c before all => if_neg (List.forall_mem_cons.mp all).1) chars
      (fun c member same => plain (same ▸ member)) [] nofun
  refine gathered.append (Reads.cons ?_ (reads_nil _))
  simp [State.step]

theorem reads_key (tag : StartTag) (name : AttributeName) :
    Reads ⟨opened, nodes, .key tag []⟩ (name.text.toList ++ ['=', '"'])
      ⟨opened, nodes, .value tag name.text []⟩ := by
  have nonempty := (isName_attribute name).1
  have letters := (isName_attribute name).letters
  have gathered : Reads ⟨opened, nodes, .key tag []⟩ name.text.toList
      ⟨opened, nodes, .key tag (name.text.toList.reverse ++ [])⟩ :=
    reads_gathered (.key tag) (isLetter · = true)
      (fun c before all => if_pos (List.forall_mem_cons.mp all).1) _ letters [] nofun
  refine gathered.append
    (Reads.cons (t := ⟨opened, nodes, .equals tag name.text⟩) ?_ (Reads.cons rfl (reads_nil _)))
  simp [State.step, isLetter, nonempty]

theorem reads_attribute (tag : StartTag) (a : Attribute) :
    Reads ⟨opened, nodes, .spaced tag⟩ (' ' :: a.chars)
      ⟨opened, nodes, .spaced ⟨tag.name, tag.attributes ++ [written a]⟩⟩ := by
  have plain : '"' ∉ Text.escapeChars a.value.toList := Text.not_mem_escapeChars (by simp) _
  unfold Attribute.chars
  rw [List.append_assoc]
  exact Reads.cons rfl ((reads_key tag a.name).append (reads_value tag a.name.text _ plain))

theorem reads_attributes (tag : StartTag) (attributes : List Attribute) :
    Reads ⟨opened, nodes, .spaced tag⟩ (attributes.flatMap fun a => ' ' :: a.chars)
      ⟨opened, nodes, .spaced ⟨tag.name, tag.attributes ++ attributes.map written⟩⟩ := by
  induction attributes generalizing tag with
  | nil =>
    rw [List.map_nil, List.append_nil]
    exact reads_nil _
  | cons a rest ih =>
    rw [List.flatMap_cons, List.map_cons, List.append_cons tag.attributes]
    exact (reads_attribute tag a).append (ih _)

/-- The name of a start tag is complete where no letter follows. -/
theorem reads_name {name : String} (named : IsName name) {c : Char} {rest : List Char} {t : State}
    (apart : isLetter c = false)
    (after : Reads ⟨opened, nodes, .spaced ⟨name, []⟩⟩ (c :: rest) t) :
    Reads ⟨opened, nodes, .content⟩ ('<' :: (name.toList ++ c :: rest)) t := by
  have letters := named.letters
  obtain ⟨first, others, spelled⟩ := List.exists_cons_of_ne_nil named.1
  rw [spelled, List.forall_mem_cons] at letters
  have gathered : Reads ⟨opened, nodes, .name [first]⟩ others
      ⟨opened, nodes, .name (others.reverse ++ [first])⟩ :=
    reads_gathered .name (isLetter · = true)
      (fun c before all => if_pos (List.forall_mem_cons.mp all).1) others letters.2 [first]
      (List.forall_mem_singleton.mpr letters.1)
  have slash : first ≠ '/' := by
    rintro rfl
    exact absurd letters.1 (by decide)
  -- Where no letter follows, the reader goes on as it does after a value.
  have complete : State.step ⟨opened, nodes, .name (others.reverse ++ [first])⟩ c =
      State.step ⟨opened, nodes, .spaced ⟨name, []⟩⟩ c := by
    have whole : String.ofList (others.reverse ++ [first]).reverse = name := by
      rw [List.reverse_append, List.reverse_reverse, List.reverse_singleton, List.singleton_append,
        ← spelled, String.ofList_toList]
    refine (if_neg (Bool.eq_false_iff.mp apart)).trans ?_
    rw [whole]
    rfl
  rw [spelled, List.cons_append]
  refine Reads.cons rfl (Reads.cons ?_ (gathered.append ?_))
  · exact (if_neg slash).trans (if_pos letters.1)
  · unfold Reads
    rw [List.foldlM_cons, complete, ← List.foldlM_cons]
    exact after

theorem reads_tagChars {name : String} (named : IsName name) (attributes : List Attribute)
    {c : Char} {rest : List Char} {t : State} (apart : isLetter c = false)
    (after : Reads ⟨opened, nodes, .spaced ⟨name, attributes.map written⟩⟩ (c :: rest) t) :
    Reads ⟨opened, nodes, .content⟩ ('<' :: (Markup.tagChars name attributes ++ c :: rest)) t := by
  unfold Markup.tagChars
  rw [List.append_assoc]
  cases attributes with
  | nil => exact reads_name named apart after
  | cons a others =>
    exact reads_name named (by decide) ((reads_attributes _ (a :: others)).append after)

theorem reads_endTag {tag : StartTag} (named : IsName tag.name) (before : List Node) :
    Reads ⟨(tag, before) :: opened, nodes, .content⟩ ('<' :: '/' :: (tag.name.toList ++ ['>']))
      ⟨opened, .element tag.name tag.attributes nodes.reverse :: before, .content⟩ := by
  have gathered : Reads ⟨(tag, before) :: opened, nodes, .endName []⟩ tag.name.toList
      ⟨(tag, before) :: opened, nodes, .endName (tag.name.toList.reverse ++ [])⟩ :=
    reads_gathered .endName (isLetter · = true)
      (fun c before all => if_pos (List.forall_mem_cons.mp all).1) _ named.letters [] nofun
  refine Reads.cons rfl (Reads.cons rfl (gathered.append (Reads.cons ?_ (reads_nil _))))
  simp [State.step, State.leave, isLetter]

/-- A style element. Its rules run up to its end tag when no tag starts in them. -/
theorem reads_style (rules : List Char) (plain : '<' ∉ rules) :
    Reads ⟨opened, nodes, .content⟩ ("<style>".toList ++ rules ++ "</style>".toList)
      ⟨opened, .element "style" [] [.text rules] :: nodes, .content⟩ := by
  have start : Reads ⟨opened, nodes, .content⟩ "<style>".toList
      ⟨opened, nodes, .rules ⟨"style", []⟩ []⟩ := rfl
  have gathered : Reads ⟨opened, nodes, .rules ⟨"style", []⟩ []⟩ rules
      ⟨opened, nodes, .rules ⟨"style", []⟩ (rules.reverse ++ [])⟩ := by
    refine reads_gathered (.rules ⟨"style", []⟩) (· ≠ '<') ?_ rules
      (fun c member same => plain (same ▸ member)) [] nofun
    intro c chars none_starts
    unfold State.step
    dsimp only
    -- The end tag would have its own angle bracket among what was gathered.
    split
    · rename_i rest ended
      rw [ended] at none_starts
      simp at none_starts
    · rfl
  have finish (chars : List Char) : Reads ⟨opened, nodes, .rules ⟨"style", []⟩ chars⟩
      "</style>".toList ⟨opened, .element "style" [] [.text chars.reverse] :: nodes, .content⟩ :=
    rfl
  have whole := (start.append gathered).append (finish (rules.reverse ++ []))
  rwa [List.append_nil, List.reverse_reverse] at whole

/-! ## Trees -/

mutual

/-- The nodes that a tree adds to the ones before it. -/
def place (nodes : List Node) : Markup → List Node
  | .text s => (Text.escapeChars s.toList).foldl push nodes
  | .style rules => .element "style" [] [.text rules.toList] :: nodes
  | .element tag attributes children =>
    .element tag.name (attributes.map written) (placeAll [] children).reverse :: nodes
  | .image attributes => .element "img" (attributes.map written) [] :: nodes
  | .path attributes => .element "path" (attributes.map written) [] :: nodes

def placeAll (nodes : List Node) : List Markup → List Node
  | [] => nodes
  | m :: rest => placeAll (place nodes m) rest

end

def ofMarkup (m : Markup) : List Node :=
  (place [] m).reverse

mutual

theorem reads_markup (m : Markup) (legible : ∀ rules, .style rules ∈ m.parts → '<' ∉ rules.toList)
    (opened : List (StartTag × List Node)) (nodes : List Node) :
    Reads ⟨opened, nodes, .content⟩ m.chars ⟨opened, place nodes m, .content⟩ := by
  match m with
  | .text s =>
    rw [Markup.chars_text, place]
    exact reads_text _ (Text.not_mem_escapeChars (by simp) _) nodes
  | .style rules =>
    rw [Markup.chars_style, place]
    exact reads_style rules.toList (legible rules (by simp [Markup.parts]))
  | .element tag attributes children =>
    simp only [Markup.parts, List.mem_cons, reduceCtorEq, false_or] at legible
    have inside := reads_children children legible
      ((⟨tag.name, attributes.map written⟩, nodes) :: opened) []
    have enters : State.step ⟨opened, nodes, .spaced ⟨tag.name, attributes.map written⟩⟩ '>' =
        some ⟨(⟨tag.name, attributes.map written⟩, nodes) :: opened, [], .content⟩ := by
      cases tag <;> rfl
    rw [Markup.chars_element, place]
    simp only [List.append_assoc, List.cons_append]
    exact reads_tagChars (isName_tag tag) attributes (by decide)
      (Reads.cons enters (inside.append (reads_endTag (isName_tag tag) nodes)))
  | .image attributes =>
    rw [Markup.chars_image, place]
    exact reads_tagChars (by decide) attributes (by decide) (Reads.cons rfl (reads_nil _))
  | .path attributes =>
    rw [Markup.chars_path, place]
    exact reads_tagChars (by decide) attributes (by decide)
      (Reads.cons rfl (Reads.cons rfl (reads_nil _)))

theorem reads_children (ms : List Markup)
    (legible : ∀ rules, .style rules ∈ Markup.partsAll ms → '<' ∉ rules.toList)
    (opened : List (StartTag × List Node)) (nodes : List Node) :
    Reads ⟨opened, nodes, .content⟩ (Markup.childrenChars ms)
      ⟨opened, placeAll nodes ms, .content⟩ := by
  match ms with
  | [] => exact reads_nil _
  | m :: rest =>
    rw [Markup.childrenChars, placeAll]
    rw [Markup.partsAll] at legible
    exact (reads_markup m (fun rules member => legible rules (List.mem_append_left _ member))
      opened nodes).append (reads_children rest
        (fun rules member => legible rules (List.mem_append_right _ member)) opened (place nodes m))

end

/-- A page is read back as the tree that was written. -/
theorem read_chars (m : Markup) (legible : ∀ rules, .style rules ∈ m.parts → '<' ∉ rules.toList) :
    read m.chars = some (ofMarkup m) := by
  have run : m.chars.foldlM State.step ⟨[], [], .content⟩ = some ⟨[], place [] m, .content⟩ :=
    reads_markup m legible [] []
  unfold read
  rw [run]
  rfl

/-! A value that is not escaped can end early, and then the page is refused. -/

example : read "<div class=\"a\"b\"></div>".toList = none := rfl

theorem push_append (nodes : List Node) (name : String) (attributes : List (String × List Char))
    (children before : List Node) (c : Char) :
    push (nodes ++ .element name attributes children :: before) c =
      push nodes c ++ .element name attributes children :: before := by
  cases nodes with
  | nil => rfl
  | cons node rest => cases node <;> rfl

theorem place_append (nodes : List Node) (name : String) (attributes : List (String × List Char))
    (children before : List Node) (m : Markup) :
    place (nodes ++ .element name attributes children :: before) m =
      place nodes m ++ .element name attributes children :: before := by
  cases m with
  | text s =>
    simp only [place]
    induction Text.escapeChars s.toList generalizing nodes with
    | nil => rfl
    | cons c rest ih =>
      rw [List.foldl_cons, push_append, ih]
      rfl
  | _ => simp only [place, List.cons_append]

theorem placeAll_append (nodes : List Node) (name : String)
    (attributes : List (String × List Char)) (children before : List Node) (ms : List Markup) :
    placeAll (nodes ++ .element name attributes children :: before) ms =
      placeAll nodes ms ++ .element name attributes children :: before := by
  induction ms generalizing nodes with
  | nil => rfl
  | cons m rest ih => rw [placeAll, placeAll, place_append, ih]

/-! ## Elements -/

/-- The name of an element and those of its attributes; none for text. -/
def tag? : Markup → Option (String × List String)
  | .text _ => none
  | .style _ => some ("style", [])
  | .element tag attributes _ => some (tag.name, attributes.map (·.name.text))
  | .image attributes => some ("img", attributes.map (·.name.text))
  | .path attributes => some ("path", attributes.map (·.name.text))

theorem tagsAll_push (nodes : List Node) (c : Char) :
    tagsAll (push nodes c).reverse = tagsAll nodes.reverse := by
  cases nodes with
  | nil => rfl
  | cons node before =>
    cases node <;> simp [push, tagsAll_append, tagsAll, tags]

theorem tagsAll_text (nodes : List Node) (chars : List Char) :
    tagsAll (chars.foldl push nodes).reverse = tagsAll nodes.reverse := by
  induction chars generalizing nodes with
  | nil => rfl
  | cons c rest ih => rw [List.foldl_cons, ih, tagsAll_push]

mutual

theorem tagsAll_place (nodes : List Node) (m : Markup) :
    tagsAll (place nodes m).reverse = tagsAll nodes.reverse ++ m.parts.filterMap tag? := by
  match m with
  | .text s => simp [place, tagsAll_text, Markup.parts, tag?]
  | .style rules => simp [place, tagsAll_append, tagsAll, tags, Markup.parts, tag?]
  | .image attributes => simp [place, tagsAll_append, tagsAll, tags, Markup.parts, tag?, written]
  | .path attributes => simp [place, tagsAll_append, tagsAll, tags, Markup.parts, tag?, written]
  | .element tag attributes children =>
    simp [place, tagsAll_append, tagsAll, tags, Markup.parts, tag?, written, tagsAll_placeAll]

theorem tagsAll_placeAll (nodes : List Node) (ms : List Markup) :
    tagsAll (placeAll nodes ms).reverse =
      tagsAll nodes.reverse ++ (Markup.partsAll ms).filterMap tag? := by
  match ms with
  | [] => simp [placeAll, Markup.partsAll]
  | m :: rest =>
    rw [placeAll, tagsAll_placeAll, tagsAll_place, Markup.partsAll, List.filterMap_append,
      List.append_assoc]

end

theorem tagsAll_ofMarkup (m : Markup) : tagsAll (ofMarkup m) = m.parts.filterMap tag? :=
  tagsAll_place [] m

end Page

end DeckPress
