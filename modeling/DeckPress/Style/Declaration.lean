import DeckPress.Markup.Tree

/-!
Style declarations: a property and its value. In a list each ends with a semicolon, and a space
stands between two.
-/

namespace DeckPress

structure Declaration where
  property : String
  value : String
  deriving DecidableEq, Repr

namespace Declaration

def text (d : Declaration) : String :=
  d.property ++ ": " ++ d.value ++ ";"

end Declaration

abbrev Declarations := List Declaration

def Declarations.text (ds : Declarations) : String :=
  String.intercalate " " (ds.map Declaration.text)

def Declarations.attribute (ds : Declarations) : Attribute :=
  ⟨.style, Declarations.text ds⟩

end DeckPress
