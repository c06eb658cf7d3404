import DeckPress.Outline.Command
import DeckPress.Proofs.Json.Wording

/-!
The text of a path read back. It is cut at single spaces; a word that begins with the letter of a
command starts one, and the other words are numbers of the command before them. No number begins
with such a letter, not even an infinite one, so commands that have the coordinates they need are
read as what they are. The contour of every family is made of such commands, from its only start to
its only end.
-/

namespace DeckPress

/-! ## Reading -/

def Letter.ofChar? : Char → Option Letter
  | 'M' => some .moveTo
  | 'L' => some .lineTo
  | 'Q' => some .quadTo
  | 'A' => some .arcTo
  | 'Z' => some .close
  | _ => none

structure Spelled where
  letter : Letter
  numbers : List String
  deriving DecidableEq

/-- What a text has to say of a command; none when a coordinate that its letter needs is not set. -/
def PathCommand.spelled? (c : PathCommand) : Option Spelled :=
  let number := Json.floatStyleText
  let flag (b : Bool) := if b then "1" else "0"
  match c.letter with
  | .moveTo | .lineTo => do return ⟨c.letter, [number (← c.x), number (← c.y)]⟩
  | .quadTo => do
    return ⟨.quadTo, [number (← c.x1), number (← c.y1), number (← c.x), number (← c.y)]⟩
  | .arcTo => do
    return ⟨.arcTo, [number (← c.rx), number (← c.ry), number c.rotation, flag c.largeArc,
      flag c.sweep, number (← c.x), number (← c.y)]⟩
  | .close => some ⟨.close, []⟩

namespace PathText

/-- The command that a word starts, and its first number when that stands in the word too. -/
def start? : List Char → Option (Letter × List String)
  | [] => none
  | c :: number => (Letter.ofChar? c).map fun letter =>
    (letter, if number = [] then [] else [String.ofList number])

def gather : List (List Char) → List String × List Spelled
  | [] => ([], [])
  | word :: words =>
    let (loose, found) := gather words
    match start? word with
    | some (letter, number) => ([], ⟨letter, number ++ loose⟩ :: found)
    | none => (String.ofList word :: loose, found)

/-- The words of a text. An empty text has none. -/
def words (text : List Char) : List (List Char) :=
  if text = [] then [] else text.splitOn ' '

/-- The commands of a path. Nothing may stand in front of the first of them. -/
def read? (text : List Char) : Option (List Spelled) :=
  match gather (words text) with
  | ([], found) => some found
  | _ => none

end PathText

/-! ## Numbers -/

namespace Decimal

theorem layOut_ne_nil (style : PointStyle) (digits : List Char) (point : Int) :
    style.layOut digits point ≠ [] := by
  unfold PointStyle.layOut
  split
  · split
    · simp
    · split <;> simp
  · simp

theorem whole_ne_empty (n : Int) : toString n ≠ "" := by
  rw [Int.toString_eq_repr, Int.repr_eq_if]
  split
  · exact Nat.repr_ne_empty
  · simp

theorem write_ne_empty (x : Float) : write x ≠ "" := by
  unfold write
  split
  · decide
  · simp [doubleStyle]
  · split <;> simp [layOut_ne_nil]

end Decimal

/-- What stands in a text for a number: something, and nothing that numbers are not made of. -/
def Numeral (s : String) : Prop :=
  s ≠ "" ∧ s.toList ⊆ Text.numeralChars

theorem numeral_number (x : Float) : Numeral (Json.floatStyleText x) := by
  constructor
  · unfold Json.floatStyleText
    split
    · exact Decimal.whole_ne_empty _
    · exact Decimal.write_ne_empty x
  · intro c member
    by_contra foreign
    exact Json.not_mem_floatStyleText foreign x member

theorem numeral_flag (b : Bool) : Numeral (if b then "1" else "0") := by
  cases b <;> exact ⟨by decide, by decide⟩

theorem Numeral.not_mem {s : String} (numeral : Numeral s) {c : Char}
    (foreign : c ∉ Text.numeralChars) : c ∉ s.toList :=
  fun member => foreign (numeral.2 member)

/-! ## What commands are spelled as -/

namespace Spelled

def Plain (e : Spelled) : Prop :=
  ∀ n ∈ e.numbers, Numeral n

/-- The first number stands in one word with the letter. -/
def words : Spelled → List String
  | ⟨letter, []⟩ => [letter.text]
  | ⟨letter, first :: others⟩ => (letter.text ++ first) :: others

def text (e : Spelled) : String :=
  String.intercalate " " e.words

theorem words_ne_nil (e : Spelled) : e.words ≠ [] := by
  obtain ⟨letter, numbers⟩ := e
  cases numbers <;> simp [words]

theorem text_eq (e : Spelled) : e.text = e.letter.text ++ String.intercalate " " e.numbers := by
  obtain ⟨letter, numbers⟩ := e
  cases numbers with
  | nil => simp [text, words]
  | cons first others => rw [text, words, String.intercalate_cons_append]

theorem of_mem_words {e : Spelled} {word : String} (member : word ∈ e.words) :
    word ∈ e.numbers ∨ ∃ n, (n = "" ∨ n ∈ e.numbers) ∧ word = e.letter.text ++ n := by
  obtain ⟨letter, numbers⟩ := e
  cases numbers with
  | nil =>
    cases List.mem_singleton.mp member
    exact .inr ⟨"", .inl rfl, by simp⟩
  | cons first others =>
    rcases List.mem_cons.mp member with rfl | later
    · exact .inr ⟨first, .inr List.mem_cons_self, rfl⟩
    · exact .inl (List.mem_cons_of_mem _ later)

section Words

variable {e : Spelled} (plain : e.Plain) {word : String} (member : word ∈ e.words)

include plain member

theorem word_ne_empty : word ≠ "" := by
  rcases of_mem_words member with number | ⟨n, -, rfl⟩
  · exact (plain word number).1
  · have letter : e.letter.text ≠ "" := by cases e.letter <;> decide
    simp [letter]

theorem not_mem_word {c : Char} (foreign : c ∉ Text.numeralChars)
    (other : ∀ letter : Letter, c ∉ letter.text.toList) : c ∉ word.toList := by
  rcases of_mem_words member with number | ⟨n, number, rfl⟩
  · exact (plain word number).not_mem foreign
  · rw [String.toList_append, List.mem_append, not_or]
    refine ⟨other e.letter, ?_⟩
    rcases number with rfl | number
    · exact List.not_mem_nil
    · exact (plain n number).not_mem foreign

end Words

end Spelled

namespace PathCommand

theorem spelled_of_some {c : PathCommand} {e : Spelled} (complete : c.spelled? = some e) :
    c.text = e.text ∧ e.Plain := by
  have same : c.letter = e.letter ∧ c.operands = e.numbers ∧ e.Plain := by
    obtain ⟨letter, x, y, x1, y1, rx, ry, rotation, largeArc, sweep⟩ := c
    cases letter <;>
      simp only [spelled?, Option.bind_eq_bind, Option.bind_eq_some_iff, Option.pure_def,
        Option.some.injEq] at complete
    case moveTo | lineTo =>
      obtain ⟨x, rfl, y, rfl, rfl⟩ := complete
      simp [operands, numberText, Spelled.Plain, numeral_number]
    case quadTo =>
      obtain ⟨x1, rfl, y1, rfl, x, rfl, y, rfl, rfl⟩ := complete
      simp [operands, numberText, Spelled.Plain, numeral_number]
    case arcTo =>
      obtain ⟨rx, rfl, ry, rfl, x, rfl, y, rfl, rfl⟩ := complete
      simp [operands, numberText, flagText, Spelled.Plain, numeral_number, numeral_flag]
    case close =>
      subst complete
      simp [operands, Spelled.Plain]
  obtain ⟨letter, operands, plain⟩ := same
  exact ⟨by rw [text, Spelled.text_eq, letter, operands], plain⟩

theorem spelled_of_mapM {commands : List PathCommand} {es : List Spelled}
    (complete : commands.mapM spelled? = some es) :
    commands.map text = es.map Spelled.text ∧ ∀ e ∈ es, e.Plain := by
  induction commands generalizing es with
  | nil =>
    cases complete
    exact ⟨rfl, nofun⟩
  | cons c commands ih =>
    rw [List.mapM_cons] at complete
    obtain ⟨e, first, complete⟩ := Option.bind_eq_some_iff.mp complete
    obtain ⟨others, rest, same⟩ := Option.bind_eq_some_iff.mp complete
    cases same
    obtain ⟨text, plain⟩ := spelled_of_some first
    obtain ⟨texts, plains⟩ := ih rest
    exact ⟨by rw [List.map_cons, List.map_cons, text, texts],
      List.forall_mem_cons.mpr ⟨plain, plains⟩⟩

theorem intercalate_texts (es : List Spelled) :
    String.intercalate " " (es.map Spelled.text) =
      String.intercalate " " (es.flatMap Spelled.words) := by
  induction es with
  | nil => rfl
  | cons e es ih =>
    cases es with
    | nil => simp [Spelled.text]
    | cons next es =>
      have filled : (next :: es).flatMap Spelled.words ≠ [] := by
        simp [Spelled.words_ne_nil]
      rw [List.map_cons, String.intercalate_cons_of_ne_nil (by simp), ih,
        List.flatMap_cons (x := e), String.intercalate_append_of_ne_nil e.words_ne_nil filled,
        Spelled.text]

theorem pathText_eq {commands : List PathCommand} {es : List Spelled}
    (complete : commands.mapM spelled? = some es) :
    pathText commands = String.intercalate " " (es.flatMap Spelled.words) := by
  rw [pathText, (spelled_of_mapM complete).1, intercalate_texts]

/-- The text of a path has no other characters than spaces, letters and those of numbers. -/
theorem not_mem_pathText {commands : List PathCommand} {es : List Spelled}
    (complete : commands.mapM spelled? = some es) {c : Char} (foreign : c ∉ Text.numeralChars)
    (other : ∀ letter : Letter, c ∉ letter.text.toList) (blank : c ≠ ' ') :
    c ∉ (pathText commands).toList := by
  rw [pathText_eq complete]
  refine Text.not_mem_intercalate (by simpa using blank) fun word member => ?_
  obtain ⟨e, present, own⟩ := List.mem_flatMap.mp member
  exact Spelled.not_mem_word ((spelled_of_mapM complete).2 e present) own foreign other

end PathCommand

/-! ## Reading what is written -/

namespace PathText

theorem start?_letter (letter : Letter) (number : List Char) :
    start? (letter.text.toList ++ number) =
      some (letter, if number = [] then [] else [String.ofList number]) := by
  cases letter <;> rfl

theorem start?_numeral {s : String} (numeral : Numeral s) : start? s.toList = none := by
  have apart : ∀ c ∈ Text.numeralChars, (Letter.ofChar? c).isNone :=
    List.all_eq_true.mp (by decide)
  cases chars : s.toList with
  | nil => rfl
  | cons c rest =>
    have first : c ∈ s.toList := by simp [chars]
    rw [start?, Option.isNone_iff_eq_none.mp (apart c (numeral.2 first))]
    rfl

theorem gather_numbers {numbers : List String} (numerals : ∀ n ∈ numbers, Numeral n)
    (rest : List (List Char)) : gather (numbers.map String.toList ++ rest) =
      (numbers ++ (gather rest).1, (gather rest).2) := by
  induction numbers with
  | nil => rfl
  | cons n numbers ih =>
    obtain ⟨numeral, numerals⟩ := List.forall_mem_cons.mp numerals
    rw [List.map_cons, List.cons_append, gather, ih numerals, start?_numeral numeral,
      String.ofList_toList]
    rfl

theorem gather_words {e : Spelled} (plain : e.Plain) {rest : List (List Char)}
    {found : List Spelled} (behind : gather rest = ([], found)) :
    gather (e.words.map String.toList ++ rest) = ([], e :: found) := by
  obtain ⟨letter, numbers⟩ := e
  cases numbers with
  | nil =>
    have alone : start? letter.text.toList = some (letter, []) := by
      simpa using start?_letter letter []
    rw [Spelled.words, List.map_singleton, List.singleton_append, gather, behind, alone]
    rfl
  | cons first others =>
    obtain ⟨numeral, numerals⟩ := List.forall_mem_cons.mp plain
    have filled : first.toList ≠ [] := by simpa using numeral.1
    rw [Spelled.words, List.map_cons, List.cons_append, gather, gather_numbers numerals, behind,
      String.toList_append, start?_letter, if_neg filled, String.ofList_toList]
    simp

theorem gather_flatMap {es : List Spelled} (plain : ∀ e ∈ es, e.Plain) :
    gather ((es.flatMap Spelled.words).map String.toList) = ([], es) := by
  induction es with
  | nil => rfl
  | cons e es ih =>
    obtain ⟨first, others⟩ := List.forall_mem_cons.mp plain
    rw [List.flatMap_cons, List.map_append, gather_words first (ih others)]

theorem words_intercalate {ws : List String} (each : ∀ w ∈ ws, w ≠ "" ∧ ' ' ∉ w.toList) :
    words (String.intercalate " " ws).toList = ws.map String.toList := by
  cases ws with
  | nil => rfl
  | cons w ws =>
    have split : (String.intercalate " " (w :: ws)).toList.splitOn ' ' =
        (w :: ws).map String.toList := by
      rw [String.toList_intercalate]
      refine List.splitOn_intercalate ' ' ?_ (by simp)
      rw [List.forall_mem_map]
      exact fun w member => (each w member).2
    rw [words, if_neg ?_, split]
    intro empty
    rw [empty] at split
    have none : w.toList = [] := (List.cons.inj split).1.symm
    exact (each w List.mem_cons_self).1 (String.toList_eq_nil_iff.mp none)

theorem read?_spelled {commands : List PathCommand} {es : List Spelled}
    (complete : commands.mapM PathCommand.spelled? = some es) :
    read? (PathCommand.pathText commands).toList = some es := by
  obtain ⟨-, plain⟩ := PathCommand.spelled_of_mapM complete
  have letters (letter : Letter) : ' ' ∉ letter.text.toList := by cases letter <;> decide
  have each : ∀ w ∈ es.flatMap Spelled.words, w ≠ "" ∧ ' ' ∉ w.toList := by
    intro w member
    obtain ⟨e, present, own⟩ := List.mem_flatMap.mp member
    exact ⟨Spelled.word_ne_empty (plain e present) own,
      Spelled.not_mem_word (plain e present) own (by decide) letters⟩
  rw [read?, PathCommand.pathText_eq complete, words_intercalate each, gather_flatMap plain]

end PathText

/-! ## Contours -/

namespace Segment

variable {α : Type}

def letter : Segment α → Letter
  | .move _ => .moveTo
  | .line _ => .lineTo
  | .quad _ _ => .quadTo
  | .arc .. => .arcTo
  | .close => .close

/-- The point where a step ends, and the one that its curve is drawn to. -/
def points : Segment α → List (Point α)
  | .move target => [target]
  | .line target => [target]
  | .quad control target => [control, target]
  | .arc _ _ _ _ _ target => [target]
  | .close => []

/-- The numbers behind a letter: those of the points in their order, and in front of the end of an
arc its radii, its rotation and its two flags. -/
def spelled (s : Segment Float) : Spelled where
  letter := s.letter
  numbers :=
    let coordinates := s.points.flatMap fun q => [q.x, q.y]
    match s with
    | .arc rx ry rotation large sweep _ =>
      [rx, ry, rotation].map Json.floatStyleText ++
        [large, sweep].map (fun flag => if flag then "1" else "0") ++
        coordinates.map Json.floatStyleText
    | _ => coordinates.map Json.floatStyleText

end Segment

/-- The letters of one closed contour: its start, what it draws, and its end. -/
def OneContour (letters : List Letter) : Prop :=
  ∃ inner, letters = .moveTo :: inner ++ [.close] ∧ .moveTo ∉ inner ∧ .close ∉ inner

namespace Outline

theorem oneContour_polygon {α : Type} (first : Point α) (others : List (Point α)) :
    OneContour ((polygon (first :: others)).map Segment.letter) :=
  ⟨others.map fun _ => .lineTo, by simp [polygon, Segment.letter, Function.comp_def], by simp,
    by simp⟩

variable {α : Type} [Add α] [Sub α] [Mul α] [Div α] [OfScientific α] [LT α] [DecidableLT α]

theorem oneContour_build (family : Family) (w h : α) (p : Measures α) :
    OneContour ((build family w h p).map Segment.letter) := by
  cases family with
  | roundedRectangle =>
    exact ⟨[.lineTo, .quadTo, .lineTo, .quadTo, .lineTo, .quadTo, .lineTo, .quadTo], rfl,
      by decide, by decide⟩
  | ellipse => exact ⟨[.arcTo], rfl, by decide, by decide⟩
  | speechBubble =>
    exact ⟨[.lineTo, .quadTo, .lineTo, .quadTo, .lineTo, .lineTo, .lineTo, .lineTo, .quadTo,
      .lineTo, .quadTo], rfl, by decide, by decide⟩
  | _ => exact oneContour_polygon _ _

end Outline

namespace PathCommand

def points (c : PathCommand) : List (Point Float) :=
  [(c.x1, c.y1), (c.x, c.y)].filterMap fun (x, y) => return ⟨← x, ← y⟩

theorem points_ofSegment (s : Segment Float) : (ofSegment s).points = s.points := by
  cases s <;> rfl

theorem spelled?_ofSegment (s : Segment Float) : (ofSegment s).spelled? = some s.spelled := by
  cases s <;> rfl

theorem spelled_segments (segments : List (Segment Float)) :
    (segments.map ofSegment).mapM spelled? = some (segments.map Segment.spelled) := by
  induction segments with
  | nil => rfl
  | cons s segments ih =>
    rw [List.map_cons, List.mapM_cons, spelled?_ofSegment, ih]
    rfl

end PathCommand

namespace Family

variable (family : Family) (w h : Float) (p : Measures Float)

theorem points_commands : (family.commands w h p).flatMap PathCommand.points =
    (Outline.build family w h p).flatMap Segment.points := by
  rw [commands, List.flatMap_map]
  exact List.flatMap_congr fun s _ => PathCommand.points_ofSegment s

theorem spelled_commands : (family.commands w h p).mapM PathCommand.spelled? =
    some ((Outline.build family w h p).map Segment.spelled) :=
  PathCommand.spelled_segments _

theorem not_mem_commands : 'N' ∉ (PathCommand.pathText (family.commands w h p)).toList := by
  have letters (letter : Letter) : 'N' ∉ letter.text.toList := by cases letter <;> decide
  exact PathCommand.not_mem_pathText (family.spelled_commands w h p) (by decide) letters
    (by decide)

end Family

namespace PathText

/-- The text of an outline says every step of its contour, with all points, radii and flags. -/
theorem read?_commands (family : Family) (w h : Float) (p : Measures Float) :
    read? (PathCommand.pathText (family.commands w h p)).toList =
      some ((Outline.build family w h p).map Segment.spelled) :=
  read?_spelled (family.spelled_commands w h p)

/-- Commands with all the coordinates that they need are read back from their text, and an outline
is one closed contour of such commands. -/
theorem read?_pathText :
    (∀ commands es, commands.mapM PathCommand.spelled? = some es →
      read? (PathCommand.pathText commands).toList = some es) ∧
    ∀ (family : Family) (w h : Float) (p : Measures Float), ∃ es,
      (family.commands w h p).mapM PathCommand.spelled? = some es ∧
      read? (PathCommand.pathText (family.commands w h p)).toList = some es ∧
      OneContour (es.map Spelled.letter) ∧
      ¬ "None".toList <:+: (PathCommand.pathText (family.commands w h p)).toList := by
  refine ⟨fun commands es => read?_spelled, fun family w h p => ?_⟩
  refine ⟨_, family.spelled_commands w h p, read?_commands family w h p, ?_, fun inside => ?_⟩
  · rw [List.map_map]
    exact Outline.oneContour_build family w h p
  · exact family.not_mem_commands w h p (inside.subset (by decide))

/-- A path that does not begin at a point, with numbers that their letters do not need. -/
def strayPath : List PathCommand :=
  [{ letter := .moveTo, x := some (1.0 / 0.0), y := some (-2.0), rx := some 7.0, sweep := true },
    { letter := .arcTo, rx := some 5.0, ry := some 2.5, largeArc := true, x := some 0.0,
      y := some (0.0 / 0.0) },
    { letter := .close, x := some 3.0 }]

theorem read?_strayPath :
    let es : List Spelled := [⟨.moveTo, ["inf", "-2"]⟩,
      ⟨.arcTo, ["5", "2.5", "0", "1", "0", "0", "nan"]⟩, ⟨.close, []⟩]
    strayPath.mapM PathCommand.spelled? = some es ∧
      read? (PathCommand.pathText strayPath).toList = some es := by
  intro es
  have complete : strayPath.mapM PathCommand.spelled? = some es := by decide +kernel
  exact ⟨complete, read?_pathText.1 strayPath es complete⟩

end PathText

end DeckPress
