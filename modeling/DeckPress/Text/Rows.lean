/-!
Rows of code points, the form in which tables of the character standard are kept. A row of a class
has a first and a last code point. A row of a mapping has a step and a distance besides: it holds
every code point at a multiple of the step from its first one, and maps it by the distance.
-/

namespace DeckPress.Text

def inRows (rows : List (Nat × Nat)) (c : Char) : Bool :=
  rows.any fun row => row.1 ≤ c.toNat && c.toNat ≤ row.2

/-- The character that a mapping gives for one: the first row that holds it decides. -/
def rowImage? (rows : List (Nat × Nat × Nat × Int)) (c : Char) : Option Char :=
  let holds (row : Nat × Nat × Nat × Int) :=
    row.1 ≤ c.toNat && c.toNat ≤ row.2.1 && (c.toNat - row.1) % row.2.2.1 == 0
  (rows.find? holds).map fun row => Char.ofNat ((c.toNat : Int) + row.2.2.2).toNat

end DeckPress.Text
