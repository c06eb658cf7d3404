import DeckPress.Json.Basic

/-!
Theme tokens: names that stand for colours and fonts. A text that names an entry of a table is
replaced by the entry; everything else stands for itself.
-/

namespace DeckPress

/-- The entry that a value names, or the value. The empty text names nothing. -/
def resolveToken (value : Json) (table : Record Json) : Json :=
  match value with
  | .str "" => value
  | .str name => (table.get? name).getD value
  | _ => value

/-- The tables of one render call. Where they are not enabled every value stands for itself. -/
structure Tokens where
  colors : Record Json := []
  fonts : Record Json := []
  enabled : Bool := true

namespace Tokens

def color (t : Tokens) (value : Json) : Json :=
  if t.enabled then resolveToken value t.colors else value

def font (t : Tokens) (value : Json) : Json :=
  if t.enabled then resolveToken value t.fonts else value

def disabled : Tokens := { enabled := false }

end Tokens

end DeckPress
