/-!
Escaping text for markup. Five characters have entities; each is replaced throughout the text
before the next one is looked at. The ampersand comes first, because the entities contain it.
Decoding goes from left to right once.
-/

namespace DeckPress.Text

/-- The characters that have an entity, in the order in which they are replaced. -/
def entities : List (Char × List Char) :=
  [('&', "&amp;".toList), ('<', "&lt;".toList), ('>', "&gt;".toList), ('"', "&quot;".toList),
    ('\'', "&#39;".toList)]

/-- Replaces one character throughout. -/
def replaceChar (c : Char) (entity : List Char) (s : List Char) : List Char :=
  s.flatMap fun x => if x = c then entity else [x]

def escapeChars (s : List Char) : List Char :=
  entities.foldl (fun text entity => replaceChar entity.1 entity.2 text) s

def escape (s : String) : String :=
  String.ofList (escapeChars s.toList)

/-- Reads the five entities back, in one pass; an ampersand that starts none of them stays. -/
def unescapeChars : List Char → List Char
  | '&' :: 'a' :: 'm' :: 'p' :: ';' :: rest => '&' :: unescapeChars rest
  | '&' :: 'l' :: 't' :: ';' :: rest => '<' :: unescapeChars rest
  | '&' :: 'g' :: 't' :: ';' :: rest => '>' :: unescapeChars rest
  | '&' :: 'q' :: 'u' :: 'o' :: 't' :: ';' :: rest => '"' :: unescapeChars rest
  | '&' :: '#' :: '3' :: '9' :: ';' :: rest => '\'' :: unescapeChars rest
  | c :: rest => c :: unescapeChars rest
  | [] => []

@[simp] theorem replaceChar_append (c : Char) (e s t : List Char) :
    replaceChar c e (s ++ t) = replaceChar c e s ++ replaceChar c e t := by
  simp [replaceChar]

@[simp] theorem escapeChars_append (s t : List Char) :
    escapeChars (s ++ t) = escapeChars s ++ escapeChars t := by
  simp [escapeChars, entities]

end DeckPress.Text
