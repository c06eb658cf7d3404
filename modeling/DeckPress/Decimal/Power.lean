/-!
Powers of the two bases: doubles count in powers of two, decimals in powers of ten.
-/

namespace DeckPress.Decimal

def twoTo (n : Nat) : Nat :=
  Nat.pow 2 n

def tenTo (n : Nat) : Nat :=
  Nat.pow 10 n

end DeckPress.Decimal
