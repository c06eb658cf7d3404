import DeckPress.Text.Glyph
import DeckPress.Text.Printable

/-!
Quoted text, as messages and nested values show it. Single quotes stand around it, or double ones
when it holds a single quote and no double one; the quote in use, backslashes and characters that
cannot be shown are written as escapes.
-/

namespace DeckPress.Text

def quotedChar (quote c : Char) : List Char :=
  if c = quote ∨ c = '\\' then ['\\', c]
  else if c = '\n' then ['\\', 'n']
  else if c = '\r' then ['\\', 'r']
  else if c = '\t' then ['\\', 't']
  else if isPrintable c then [c]
  else if c.toNat < 0x100 then ['\\', 'x'] ++ hexText 2 c.toNat
  else if c.toNat < 0x10000 then unitEscape c.toNat
  else ['\\', 'U'] ++ hexText 8 c.toNat

def quotedGlyph (quote : Char) : Glyph → List Char
  | .char c => quotedChar quote c
  | .half unit => unitEscape unit

def quoteFor (s : List Char) : Char :=
  if s.contains '\'' && !s.contains '"' then '"' else '\''

def quotedChars (s : List Char) : List Char :=
  quoteFor s :: (glyphs s).flatMap (quotedGlyph (quoteFor s)) ++ [quoteFor s]

def quoted (s : String) : String :=
  String.ofList (quotedChars s.toList)

def quoted? : Option String → String
  | some s => quoted s
  | none => "None"

end DeckPress.Text
