import DeckPress.Json.Basic
import DeckPress.Decimal.Numeral
import DeckPress.Text.Split
import DeckPress.Text.Hexadecimal

/-!
Templates of paths. A template is text with slots, each a name in braces, behind which a colon and
a kind may stand. A path fits a template when each slot can be filled with text of its kind; a slot
takes as much as it can, and less only if what comes behind it would not fit otherwise.
-/

namespace DeckPress.Service

inductive SlotKind where
  /-- Text without slashes. -/
  | step
  /-- Any text, slashes included, of one line. -/
  | path
  | whole
  /-- A whole number, which a point and more digits may follow. -/
  | decimal
  /-- Thirty-two hexadecimal digits, with hyphens where groups of them are usually divided. -/
  | identifier
  deriving DecidableEq, Repr

namespace SlotKind

def words : List (String × SlotKind) :=
  [("str", .step), ("path", .path), ("int", .whole), ("float", .decimal), ("uuid", .identifier)]

def downFrom (high low : Nat) : List Nat :=
  ((List.range (high + 1)).drop low).reverse

def runLength (holds : Char → Bool) (text : List Char) : Nat :=
  (text.takeWhile holds).length

/-- The length of groups of hexadecimal digits at the front of a text, a hyphen between two of
them being optional. -/
def groupsLength? : List Nat → List Char → Option Nat
  | [], _ => some 0
  | size :: sizes, text =>
    if size ≤ runLength Text.isHexDigit text then
      match text.drop size with
      | '-' :: rest =>
        if sizes.isEmpty then some size else (groupsLength? sizes rest).map (size + 1 + ·)
      | rest => (groupsLength? sizes rest).map (size + ·)
    else none

/-- The lengths that a slot could take up at the front of a text, the preferred ones first. -/
def lengths (kind : SlotKind) (text : List Char) : List Nat :=
  match kind with
  | .step => downFrom (runLength (· != '/') text) 1
  | .path => downFrom (runLength (· != '\n') text) 0
  | .whole => downFrom (runLength Char.isDigit text) 1
  | .decimal =>
    let whole := runLength Char.isDigit text
    let fractions := match text.drop whole with
      | '.' :: rest => downFrom (whole + 1 + runLength Char.isDigit rest) (whole + 2)
      | _ => []
    if whole = 0 then [] else fractions ++ downFrom whole 1
  | .identifier => (groupsLength? [8, 4, 4, 4, 12] text).toList

end SlotKind

structure Filling where
  name : String
  kind : SlotKind
  text : List Char

/-- The value of what fills a slot, unless it is a whole number with more digits than are read. An
identifier is an object that holds its text, so that it is not taken for text. -/
def Filling.value (filling : Filling) : Except Nat Json :=
  match filling.kind with
  | .whole =>
    if Decimal.Numeral.digitLimit < filling.text.length then .error filling.text.length
    else .ok (.int (Decimal.Numeral.digitsValue filling.text))
  | .decimal => .ok (((Decimal.Numeral.bareDouble? filling.text).map Json.float).getD .null)
  | .step | .path => .ok (.str (String.ofList filling.text))
  | .identifier => .ok (.obj [("identifier", .str (String.ofList filling.text))])

/-- A part of a template as it is written. -/
inductive Segment where
  | text (c : Char)
  | slot (name kind : String)
  deriving DecidableEq, Repr

inductive TemplateError where
  | unknownKind (kind : String)
  /-- Slots share names. -/
  | repeated (names : List String) (template : String)
  /-- A slot would have to hold the order that comes in the body. -/
  | orderSlot
  deriving DecidableEq, Repr

def TemplateError.message : TemplateError → String
  | .unknownKind _ | .orderSlot => ""
  | .repeated names template =>
    "Duplicated param name" ++ (if names.length = 1 then "" else "s") ++ " " ++
      String.intercalate ", " names ++ " at path " ++ template

namespace Segment

def isNameStart (c : Char) : Bool :=
  c.isAlpha || c == '_'

def isNameChar (c : Char) : Bool :=
  c.isAlphanum || c == '_'

def takeName? : List Char → Option (String × List Char)
  | [] => none
  | c :: rest =>
    if isNameStart c then
      some (String.ofList (c :: rest.takeWhile isNameChar), rest.dropWhile isNameChar)
    else none

/-- The slot whose opening brace has been read. One without a kind takes a step. -/
def slot? (text : List Char) : Option Segment :=
  match takeName? text with
  | some (name, '\x7d' :: _) => some (.slot name "str")
  | some (name, ':' :: rest) =>
    match takeName? rest with
    | some (kind, '\x7d' :: _) => some (.slot name kind)
    | _ => none
  | _ => none

/-- The segments of a template, when so many characters belong to a slot that has been read. A
brace that opens no slot is text. -/
def read (skip : Nat) : List Char → List Segment
  | [] => []
  | c :: rest =>
    match skip with
    | skip + 1 => read skip rest
    | 0 =>
      match if c = '\x7b' then slot? rest else none with
      | some found => found :: read ((rest.takeWhile (· != '\x7d')).length + 1) rest
      | none => .text c :: read 0 rest

def plain : Segment → List Char
  | .text c => [c]
  | .slot name _ => '\x7b' :: name.toList ++ ['\x7d']

end Segment

/-- A part of a template that paths can be held against. -/
inductive Part where
  | text (c : Char)
  | slot (name : String) (kind : SlotKind)
  deriving DecidableEq, Repr

abbrev Template := List Part

namespace Template

/-- A template as descriptions show it, its slots without their kinds. -/
def plainText (template : String) : String :=
  String.ofList ((Segment.read 0 template.toList).flatMap Segment.plain)

def ofSegment : Segment → Except TemplateError Part
  | .text c => .ok (.text c)
  | .slot name kind =>
    match Record.get? SlotKind.words kind with
    | some kind => .ok (.slot name kind)
    | none => .error (.unknownKind kind)

def names (template : Template) : List String :=
  template.filterMap fun
    | .slot name _ => some name
    | .text _ => none

/-- The names that stand in a list more than once, each once and in order. -/
def repeated (names : List String) : List String :=
  (names.eraseDups.filter fun name => 1 < names.count name).mergeSort fun a b => a ≤ b

def ofText (text : String) : Except TemplateError Template := do
  let template ← (Segment.read 0 text.toList).mapM ofSegment
  match repeated (names template) with
  | [] => return template
  | names => .error (.repeated names text)

/-- What fills the slots of a template in a path, in their order. A line feed may end the path. -/
def fill? : Template → List Char → Option (List Filling)
  | [], path => if path = [] ∨ path = ['\n'] then some [] else none
  | .text _ :: _, [] => none
  | .text c :: rest, d :: path => if c = d then fill? rest path else none
  | .slot name kind :: rest, path =>
    (kind.lengths path).findSome? fun length =>
      (fill? rest (path.drop length)).map fun fillings =>
        { name, kind, text := path.take length } :: fillings

/-- The texts between a brace and the next closing one, on one line, from left to right. -/
def braced : Nat → List Char → List String
  | 0, _ => []
  | _, [] => []
  | bound + 1, c :: rest =>
    if c = '\x7b' then
      let name := rest.takeWhile fun c => c != '\x7d' && c != '\n'
      match rest.drop name.length with
      | '\x7d' :: after => String.ofList name :: braced bound after
      | _ => braced bound rest
    else braced bound rest

/-- The names that a template is known to give values to: those that stand alone in braces when
braces are matched from the left. -/
def given (template : String) : List String :=
  let text := (plainText template).toList
  braced text.length text

end Template

end DeckPress.Service
