import DeckPress.Proofs.Markup.Reader
import DeckPress.Record

/-!
What a reader finds in a page: the elements inside an element, the values of its attributes and
the text in it, with the entities read back. An element that was drawn shows what was drawn.
-/

namespace DeckPress

namespace Node

/-- Characters of a page with their entities read back. -/
def decoded (chars : List Char) : String :=
  String.ofList (Text.unescapeChars chars)

theorem decoded_escaped (s : String) : decoded (Text.escapeChars s.toList) = s := by
  rw [decoded, Text.unescapeChars_escapeChars, String.ofList_toList]

def isElement : Node → Bool
  | .text _ => false
  | .element .. => true

def isNamed (name : String) : Node → Bool
  | .text _ => false
  | .element own _ _ => own == name

def children : Node → List Node
  | .text _ => []
  | .element _ _ children => children

/-- The elements directly inside an element. -/
def elements (node : Node) : List Node :=
  node.children.filter isElement

def attribute? (node : Node) (name : String) : Option String :=
  match node with
  | .text _ => none
  | .element _ attributes _ => (Record.get? attributes name).map decoded

/-- The text of an element that holds nothing else. -/
def text? (node : Node) : Option String :=
  match node.children with
  | [] => some ""
  | [.text chars] => some (decoded chars)
  | _ => none

def isDivision (classes : String) (node : Node) : Bool :=
  node.isNamed "div" && node.attribute? "class" == some classes

end Node

namespace Page

/-- The node of an element that was drawn; text has none of its own. -/
def node? : Markup → Option Node
  | .text _ => none
  | .style rules => some (.element "style" [] [.text rules.toList])
  | .element tag attributes children =>
    some (.element tag.name (attributes.map written) (placeAll [] children).reverse)
  | .image attributes => some (.element "img" (attributes.map written) [])
  | .path attributes => some (.element "path" (attributes.map written) [])

theorem elements_push (nodes : List Node) (c : Char) :
    (push nodes c).filter Node.isElement = nodes.filter Node.isElement := by
  cases nodes with
  | nil => rfl
  | cons node before => cases node <;> rfl

theorem elements_text (nodes : List Node) (chars : List Char) :
    (chars.foldl push nodes).filter Node.isElement = nodes.filter Node.isElement := by
  induction chars generalizing nodes with
  | nil => rfl
  | cons c rest ih => rw [List.foldl_cons, ih, elements_push]

theorem elements_place (nodes : List Node) (m : Markup) :
    (place nodes m).filter Node.isElement = (node? m).toList ++ nodes.filter Node.isElement := by
  cases m with
  | text s => exact elements_text nodes _
  | _ => rfl

theorem elements_placeAll (nodes : List Node) (ms : List Markup) :
    (placeAll nodes ms).filter Node.isElement =
      (ms.filterMap node?).reverse ++ nodes.filter Node.isElement := by
  induction ms generalizing nodes with
  | nil => rfl
  | cons m rest ih =>
    rw [placeAll, ih, elements_place, List.filterMap_cons]
    cases node? m <;> simp

variable {tag : Tag} {attributes : List Attribute} {children : List Markup} {node : Node}

theorem ofMarkup_node {m : Markup} (drawn : node? m = some node) : ofMarkup m = [node] := by
  cases m with
  | text s => cases drawn
  | _ => cases drawn; rfl

theorem elements_node (drawn : node? (.element tag attributes children) = some node) :
    node.elements = children.filterMap node? := by
  cases drawn
  have placed := elements_placeAll [] children
  rw [List.filter_nil, List.append_nil] at placed
  rw [Node.elements, Node.children, List.filter_reverse, placed, List.reverse_reverse]

/-- Where no text stands between them, the elements are all that is drawn. -/
theorem children_node (drawn : node? (.element tag attributes children) = some node)
    (solid : ∀ m ∈ children, (node? m).isSome) : node.children = children.filterMap node? := by
  have placed (nodes : List Node) :
      placeAll nodes children = (children.filterMap node?).reverse ++ nodes := by
    clear drawn
    induction children generalizing nodes with
    | nil => rfl
    | cons m rest ih =>
      rw [List.forall_mem_cons] at solid
      rw [placeAll, ih solid.2]
      cases m with
      | text s => cases solid.1
      | _ => simp [place, node?]
  cases drawn
  rw [Node.children, placed, List.append_nil, List.reverse_reverse]

theorem isNamed_node (drawn : node? (.element tag attributes children) = some node)
    (name : String) : node.isNamed name = (tag.name == name) := by
  cases drawn
  rfl

/-- The value of an attribute is the one that was written under its name first. -/
theorem attribute_written (element name : String) (attributes : List Attribute)
    (inside : List Node) :
    (Node.element element (attributes.map written) inside).attribute? name =
      (attributes.find? fun a => a.name.text = name).map (·.value) := by
  unfold Node.attribute?
  dsimp only
  induction attributes with
  | nil => rfl
  | cons a rest ih =>
    rw [List.map_cons, written, Record.get?]
    by_cases here : a.name.text = name
    · rw [if_pos here, List.find?_cons_of_pos (by simp [here]), Option.map_some, Option.map_some,
        Node.decoded_escaped]
    · rw [if_neg here, List.find?_cons_of_neg (by simp [here]), ih]

theorem attribute_node (drawn : node? (.element tag attributes children) = some node)
    (name : String) : node.attribute? name =
      (attributes.find? fun a => a.name.text = name).map (·.value) := by
  cases drawn
  exact attribute_written tag.name name attributes _

theorem foldl_push (chars before : List Char) :
    chars.foldl push [.text before] = [.text (before ++ chars)] := by
  induction chars generalizing before with
  | nil => simp
  | cons c rest ih =>
    have first : push [.text before] c = [.text (before ++ [c])] := rfl
    rw [List.foldl_cons, first, ih, List.append_assoc, List.singleton_append]

theorem text_node {s : String} (drawn : node? (.element tag attributes [.text s]) = some node) :
    node.text? = some s := by
  have back := Node.decoded_escaped s
  cases drawn
  unfold Node.text?
  dsimp only [Node.children, placeAll, place]
  -- Without characters there is no text node at all.
  cases escaped : Text.escapeChars s.toList with
  | nil =>
    rw [escaped] at back
    exact congrArg some back
  | cons c rest =>
    have first : push [] c = [.text [c]] := rfl
    rw [List.foldl_cons, first, foldl_push, List.singleton_append]
    rw [escaped] at back
    exact congrArg some back

end Page

end DeckPress
