import DeckPress.Text.Hexadecimal

/-!
Glyphs, what text is made of: characters, and halves of pairs. Escapes in documents name code units
of sixteen bits. A character beyond them is written as a pair of units, and half a pair is a unit
but no character. Text is kept in characters all the same: a half has a stand-in at a fixed distance
from its unit, and a character that could be taken for a stand-in is kept behind a mark. Main
statement: the glyphs of a text are read back from the characters it is kept in.
-/

namespace DeckPress.Text

/-- Whether a code unit is the first of a pair. -/
def isHighHalf (unit : Nat) : Bool :=
  0xD800 ≤ unit && unit ≤ 0xDBFF

/-- Whether a code unit is the second of a pair. -/
def isLowHalf (unit : Nat) : Bool :=
  0xDC00 ≤ unit && unit ≤ 0xDFFF

def isHalf (unit : Nat) : Bool :=
  isHighHalf unit || isLowHalf unit

inductive Glyph where
  | char (c : Char)
  | half (unit : Nat)
  deriving DecidableEq, Repr

/-- How far the stand-in of a half is from it. -/
def standInDistance : Nat := 0x100000

/-- Stands before a character that means itself. -/
def mark : Char := Char.ofNat 0x10E000

def isReserved (c : Char) : Bool :=
  0x10D800 ≤ c.toNat && c.toNat ≤ 0x10E000

/-- The glyph that a character without a mark stands for. -/
def glyphOf (c : Char) : Glyph :=
  if isReserved c then .half (c.toNat - standInDistance) else .char c

def glyphs : List Char → List Glyph
  | [] => []
  | [c] => [glyphOf c]
  | c :: d :: rest => if c = mark then .char d :: glyphs rest else glyphOf c :: glyphs (d :: rest)

/-! ## How glyphs are kept -/

def keptChar (c : Char) : List Char :=
  if isReserved c then [mark, c] else [c]

def Glyph.kept : Glyph → List Char
  | .char c => keptChar c
  | .half unit => [Char.ofNat (standInDistance + unit)]

def Glyph.ofUnit (unit : Nat) : Glyph :=
  if isHalf unit then .half unit else .char (Char.ofNat unit)

def Glyph.ofPair (high low : Nat) : Glyph :=
  .char (Char.ofNat (0x10000 + (high - 0xD800) * 0x400 + (low - 0xDC00)))

/-- Text that comes from outside, as it is kept. -/
def kept (s : String) : String :=
  String.ofList (s.toList.flatMap keptChar)

theorem isReserved_mark : isReserved mark = true := by decide

theorem glyphs_cons {c : Char} (h : c ≠ mark) (rest : List Char) :
    glyphs (c :: rest) = glyphOf c :: glyphs rest := by
  cases rest with
  | nil => rfl
  | cons d rest => simp [glyphs, h]

theorem glyphs_mark (c : Char) (rest : List Char) :
    glyphs (mark :: c :: rest) = .char c :: glyphs rest := by
  simp [glyphs]

theorem glyphs_keptChar_append (c : Char) (rest : List Char) :
    glyphs (keptChar c ++ rest) = .char c :: glyphs rest := by
  by_cases h : isReserved c = true
  · simp only [keptChar, h, if_true, List.cons_append, List.nil_append, glyphs_mark]
  · have other : c ≠ mark := fun same => h (same ▸ isReserved_mark)
    simp only [keptChar, h, if_false, Bool.false_eq_true, List.cons_append, List.nil_append,
      glyphs_cons other, glyphOf]

theorem toNat_standIn {unit : Nat} (h : unit ≤ 0xDFFF) :
    (Char.ofNat (standInDistance + unit)).toNat = standInDistance + unit := by
  have valid : (standInDistance + unit).isValidChar := by
    simp only [standInDistance, Nat.isValidChar]
    omega
  have character : Char.ofNat (standInDistance + unit) = Char.ofNatAux _ valid := dif_pos valid
  rw [character]
  rfl

theorem glyphs_half_append {unit : Nat} (h : isHalf unit = true) (rest : List Char) :
    glyphs ((Glyph.half unit).kept ++ rest) = .half unit :: glyphs rest := by
  have bounds : 0xD800 ≤ unit ∧ unit ≤ 0xDFFF := by
    simp only [isHalf, isHighHalf, isLowHalf, Bool.or_eq_true, Bool.and_eq_true,
      decide_eq_true_eq] at h
    omega
  have value := toNat_standIn bounds.2
  have other : Char.ofNat (standInDistance + unit) ≠ mark := by
    intro same
    have values := congrArg Char.toNat same
    rw [value, show mark.toNat = 0x10E000 from rfl, standInDistance] at values
    omega
  have reserved : isReserved (Char.ofNat (standInDistance + unit)) = true := by
    rw [isReserved, value, standInDistance, Bool.and_eq_true, decide_eq_true_eq, decide_eq_true_eq]
    omega
  rw [Glyph.kept, List.cons_append, List.nil_append, glyphs_cons other, glyphOf, if_pos reserved,
    value, Nat.add_sub_cancel_left]

/-- Glyphs are read back from how they are kept. -/
theorem glyphs_kept {text : List Glyph} (halves : ∀ unit, .half unit ∈ text → isHalf unit = true) :
    glyphs (text.flatMap Glyph.kept) = text := by
  induction text with
  | nil => rfl
  | cons glyph rest ih =>
    have others := ih fun unit member => halves unit (List.mem_cons_of_mem _ member)
    rw [List.flatMap_cons]
    cases glyph with
    | char c => rw [Glyph.kept, glyphs_keptChar_append, others]
    | half unit => rw [glyphs_half_append (halves unit List.mem_cons_self), others]

/-- Text as it is shown outside: without marks. A half has no character and is left out. -/
def shown (s : String) : String :=
  String.ofList ((glyphs s.toList).filterMap fun glyph =>
    match glyph with
    | .char c => some c
    | .half _ => none)

/-! ## Halves -/

def Glyph.isHalf : Glyph → Bool
  | .char _ => false
  | .half _ => true

def hasHalf (s : String) : Bool :=
  (glyphs s.toList).any Glyph.isHalf

/-- No character of a text is a stand-in or the mark. -/
def isPlain (s : List Char) : Bool :=
  s.all fun c => !isReserved c

theorem isPlain_iff {s : List Char} : isPlain s = true ↔ ∀ c ∈ s, isReserved c = false := by
  simp [isPlain]

theorem flatMap_keptChar_of_plain {s : List Char} (plain : isPlain s = true) :
    s.flatMap keptChar = s := by
  rw [isPlain_iff] at plain
  induction s with
  | nil => rfl
  | cons c rest ih =>
    obtain ⟨first, others⟩ := List.forall_mem_cons.mp plain
    rw [List.flatMap_cons, ih others, keptChar, first]
    rfl

theorem hasHalf_of_plain {s : String} (plain : isPlain s.toList = true) : hasHalf s = false := by
  have halves : ∀ unit, Glyph.half unit ∈ s.toList.map Glyph.char → isHalf unit = true := by simp
  have read := glyphs_kept halves
  rw [List.flatMap_map] at read
  change glyphs (s.toList.flatMap keptChar) = _ at read
  rw [flatMap_keptChar_of_plain plain] at read
  simp [hasHalf, read, Glyph.isHalf]

def unitEscape (unit : Nat) : List Char :=
  ['\\', 'u'] ++ hexText 4 unit

/-- The escapes of a character beyond the code units, as a pair of them. -/
def pairEscape (c : Char) : List Char :=
  let rest := c.toNat - 0x10000
  unitEscape (0xD800 + rest / 0x400) ++ unitEscape (0xDC00 + rest % 0x400)

/-- The text with each half shown as three replacement characters, one for each octet that it
would take. -/
def withoutHalves (s : String) : String :=
  String.ofList ((glyphs s.toList).flatMap fun glyph =>
    if glyph.isHalf then List.replicate 3 (Char.ofNat 0xFFFD) else glyph.kept)

end DeckPress.Text
