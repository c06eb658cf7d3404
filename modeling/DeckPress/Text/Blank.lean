/-!
Blank characters. Two sets are in use: the white space of the character standard, which numbers
written as text may carry at their ends, and that set with the four information separators
added, which is what trimming configuration text removes. The second contains the first.
-/

namespace DeckPress.Text

/-- White space as the character standard lists it: twenty-five characters. -/
def isWhiteSpace (c : Char) : Bool :=
  let n := c.toNat
  (9 ≤ n && n ≤ 13) || n == 0x20 || n == 0x85 || n == 0xA0 || n == 0x1680 ||
    (0x2000 ≤ n && n ≤ 0x200A) || n == 0x2028 || n == 0x2029 || n == 0x202F || n == 0x205F ||
    n == 0x3000

/-- White space and the information separators U+001C to U+001F. -/
def isBlank (c : Char) : Bool :=
  isWhiteSpace c || (0x1C ≤ c.toNat && c.toNat ≤ 0x1F)

def trimBoth (drop : Char → Bool) (s : List Char) : List Char :=
  ((s.dropWhile drop).reverse.dropWhile drop).reverse

/-- Configuration text without its surrounding blanks. -/
def trim (s : String) : String :=
  String.ofList (trimBoth isBlank s.toList)

end DeckPress.Text
