import Mathlib.Data.List.Basic

/-!
Pages as a plain reader sees them. The reader takes one character after the other. A value runs up
to the next quote, text up to the next angle bracket, and the rules of a style element up to its
end tag; an image has no content, and a path is closed in its tag. An end tag has to be that of
the innermost open element. What does not have this form is refused.
-/

namespace DeckPress

/-- What a page is made of. Text and values are kept as the characters that stand in the page. -/
inductive Node where
  | text (chars : List Char)
  | element (name : String) (attributes : List (String × List Char)) (children : List Node)

namespace Page

structure StartTag where
  name : String
  attributes : List (String × List Char)

/-- Where a reader stands. What it is in the middle of has its last character first. -/
inductive Mode where
  | content
  | tag
  | name (letters : List Char)
  | endName (letters : List Char)
  | key (tag : StartTag) (letters : List Char)
  | equals (tag : StartTag) (key : String)
  | value (tag : StartTag) (key : String) (chars : List Char)
  | spaced (tag : StartTag)
  | slash (tag : StartTag)
  | rules (tag : StartTag) (chars : List Char)

/-- What has been read: the open elements, the innermost first, each with the nodes before it, and
the nodes in the innermost one. Nodes are kept with the last one first. -/
structure State where
  opened : List (StartTag × List Node)
  nodes : List Node
  mode : Mode

def isLetter (c : Char) : Bool :=
  c.isAlphanum || c == '-'

def push (nodes : List Node) (c : Char) : List Node :=
  match nodes with
  | .text chars :: before => .text (chars ++ [c]) :: before
  | before => .text [c] :: before

namespace State

/-- An element without content. -/
def add (s : State) (tag : StartTag) : State :=
  { s with nodes := .element tag.name tag.attributes [] :: s.nodes, mode := .content }

def enter (s : State) (tag : StartTag) : State :=
  if tag.name = "img" then s.add tag
  else if tag.name = "style" then { s with mode := .rules tag [] }
  else { opened := (tag, s.nodes) :: s.opened, nodes := [], mode := .content }

def leave (s : State) (name : String) : Option State :=
  match s.opened with
  | (tag, before) :: opened =>
    if tag.name = name then
      some ⟨opened, .element tag.name tag.attributes s.nodes.reverse :: before, .content⟩
    else none
  | [] => none

/-- What may follow in a start tag after the name or a value. -/
def goOn (s : State) (tag : StartTag) (c : Char) : Option State :=
  if c = ' ' then some { s with mode := .key tag [] }
  else if c = '>' then some (s.enter tag)
  else if c = '/' ∧ tag.name = "path" then some { s with mode := .slash tag }
  else none

def step (s : State) (c : Char) : Option State :=
  match s.mode with
  | .content =>
    if c = '<' then some { s with mode := .tag } else some { s with nodes := push s.nodes c }
  | .tag =>
    if c = '/' then some { s with mode := .endName [] }
    else if isLetter c then some { s with mode := .name [c] }
    else none
  | .name letters =>
    if isLetter c then some { s with mode := .name (c :: letters) }
    else s.goOn ⟨String.ofList letters.reverse, []⟩ c
  | .endName letters =>
    if isLetter c then some { s with mode := .endName (c :: letters) }
    else if c = '>' then s.leave (String.ofList letters.reverse)
    else none
  | .key tag letters =>
    if isLetter c then some { s with mode := .key tag (c :: letters) }
    else if c = '=' ∧ letters ≠ [] then
      some { s with mode := .equals tag (String.ofList letters.reverse) }
    else none
  | .equals tag key => if c = '"' then some { s with mode := .value tag key [] } else none
  | .value tag key chars =>
    if c = '"' then
      some { s with mode := .spaced ⟨tag.name, tag.attributes ++ [(key, chars.reverse)]⟩ }
    else some { s with mode := .value tag key (c :: chars) }
  | .spaced tag => s.goOn tag c
  | .slash tag => if c = '>' then some (s.add tag) else none
  | .rules tag chars =>
    match c :: chars with
    | '>' :: 'e' :: 'l' :: 'y' :: 't' :: 's' :: '/' :: '<' :: rules =>
      some ⟨s.opened, .element tag.name tag.attributes [.text rules.reverse] :: s.nodes, .content⟩
    | chars => some { s with mode := .rules tag chars }

end State

/-- Reads a page from its first character to its last, with no element left open. -/
def read (page : List Char) : Option (List Node) :=
  match page.foldlM State.step ⟨[], [], .content⟩ with
  | some ⟨[], nodes, .content⟩ => some nodes.reverse
  | _ => none

mutual

/-- The elements of a page in order, each with its name and those of its attributes. -/
def tags : Node → List (String × List String)
  | .text _ => []
  | .element name attributes children => (name, attributes.map (·.1)) :: tagsAll children

def tagsAll : List Node → List (String × List String)
  | [] => []
  | node :: rest => tags node ++ tagsAll rest

end

theorem tagsAll_append (xs ys : List Node) : tagsAll (xs ++ ys) = tagsAll xs ++ tagsAll ys := by
  induction xs with
  | nil => rfl
  | cons x rest ih => rw [List.cons_append, tagsAll, tagsAll, ih, List.append_assoc]

end Page

end DeckPress
