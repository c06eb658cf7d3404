/-!
Cutting text at separators, at each of them or at the first only. No piece holds a separator, and
there is one piece more than there are separators.
-/

namespace DeckPress.Text

def split (cut : Char → Bool) : List Char → List (List Char)
  | [] => [[]]
  | c :: rest =>
    if cut c then [] :: split cut rest
    else
      match split cut rest with
      | [] => [[c]]
      | piece :: pieces => (c :: piece) :: pieces

def splitFirst? (cut : Char → Bool) (s : List Char) : Option (List Char × List Char) :=
  match s.dropWhile fun c => !cut c with
  | [] => none
  | _ :: rest => some (s.takeWhile fun c => !cut c, rest)

end DeckPress.Text
