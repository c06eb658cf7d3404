import DeckPress.Interpolation

/-!
How text is put together around its placeholders. The pieces of a text are the runs that stand in
it and the values that are put into it, in turn; joined they are the text with its placeholders
replaced. Every run stands in the text as one, and every value is one that is given.
-/

namespace DeckPress.Interpolation

/-! ## Step by step -/

section Steps

variable (values : Record Json) {rest key after : List Char}

theorem interpolateChars_slot (found : placeholder? rest = some (key, after)) :
    interpolateChars values ('\x7b' :: rest) =
      replacement values key ++ interpolateChars values after := by
  rw [interpolateChars, if_pos rfl]
  split
  next _ _ again =>
    cases found.symm.trans again
    rfl
  next none_found => cases found.symm.trans none_found

theorem interpolateChars_brace (none_found : placeholder? rest = none) :
    interpolateChars values ('\x7b' :: rest) = '\x7b' :: interpolateChars values rest := by
  rw [interpolateChars, if_pos rfl]
  split
  next _ _ found => cases none_found.symm.trans found
  next => rfl

theorem interpolateChars_plain {c : Char} (other : c ≠ '\x7b') :
    interpolateChars values (c :: rest) = c :: interpolateChars values rest := by
  rw [interpolateChars, if_neg other]

end Steps

theorem interpolateChars_congr {values others : Record Json}
    (same : ∀ name, Json.given? values name = Json.given? others name) (text : List Char) :
    interpolateChars values text = interpolateChars others text := by
  have stands (key : List Char) : replacement values key = replacement others key := by
    rw [replacement, replacement, same]
  induction text using interpolateChars.induct with
  | case1 => rw [interpolateChars, interpolateChars]
  | case2 rest key after found ih =>
    rw [interpolateChars_slot values found, interpolateChars_slot others found, stands, ih]
  | case3 rest none_found ih =>
    rw [interpolateChars_brace values none_found, interpolateChars_brace others none_found, ih]
  | case4 c rest other ih =>
    rw [interpolateChars_plain values other, interpolateChars_plain others other, ih]

theorem interpolate_congr {values others : Record Json}
    (same : ∀ name, Json.given? values name = Json.given? others name) (text : String) :
    interpolate text values = interpolate text others := by
  rw [interpolate, interpolate, interpolateChars_congr same]

theorem eq_of_placeholder? {text key rest : List Char}
    (found : placeholder? text = some (key, rest)) : text = key ++ '\x7d' :: rest := by
  unfold placeholder? at found
  split at found
  next c taken brace dropped front back =>
    cases found
    have whole := List.takeWhile_append_dropWhile (p := (· != '\x7d')) (l := text)
    have closes : brace = '\x7d' := by
      have head := List.head?_dropWhile_not (· != '\x7d') text
      rw [back] at head
      simpa using head
    rw [front, back, closes] at whole
    exact whole.symm
  next => cases found

/-! ## Pieces -/

/-- What stands next to each other in a text: a run of its own, or a value. -/
inductive Piece where
  | run (chars : List Char)
  | value (v : Json)

namespace Piece

def chars : Piece → List Char
  | run s => s
  | value v => v.styleText.toList

def push (c : Char) : Piece → Piece
  | run s => run (c :: s)
  | value v => value v

end Piece

def slot (values : Record Json) (key : List Char) : Piece :=
  match Json.given? values (String.ofList key) with
  | some v => .value v
  | none => .run ('\x7b' :: key ++ ['\x7d'])

/-- The pieces of a text. The first one is a run, which may be empty. -/
def pieces (values : Record Json) : List Char → List Piece
  | [] => [.run []]
  | c :: rest =>
    if c = '\x7b' then
      match _h : placeholder? rest with
      | some (key, after) => .run [] :: slot values key :: pieces values after
      | none => (pieces values rest).modifyHead (Piece.push c)
    else (pieces values rest).modifyHead (Piece.push c)
termination_by text => text.length
decreasing_by
  all_goals simp_wf
  have := length_lt_of_placeholder? _h
  omega

section Pieces

variable (values : Record Json) {rest key after : List Char}

theorem pieces_slot (found : placeholder? rest = some (key, after)) :
    pieces values ('\x7b' :: rest) = .run [] :: slot values key :: pieces values after := by
  rw [pieces, if_pos rfl]
  split
  next _ _ again =>
    cases found.symm.trans again
    rfl
  next none_found => cases found.symm.trans none_found

theorem pieces_brace (none_found : placeholder? rest = none) :
    pieces values ('\x7b' :: rest) = (pieces values rest).modifyHead (Piece.push '\x7b') := by
  rw [pieces, if_pos rfl]
  split
  next _ _ found => cases none_found.symm.trans found
  next => rfl

theorem pieces_plain {c : Char} (other : c ≠ '\x7b') :
    pieces values (c :: rest) = (pieces values rest).modifyHead (Piece.push c) := by
  rw [pieces, if_neg other]

theorem chars_slot (key : List Char) : (slot values key).chars = replacement values key := by
  unfold slot replacement
  cases Json.given? values (String.ofList key) <;> rfl

/-- The pieces of a text: the first run begins it, the other ones stand in it, the values are given,
and joined they are the text with its placeholders replaced. -/
structure Parted (text first : List Char) (others : List Piece) : Prop where
  starts : first <+: text
  runs : ∀ s, .run s ∈ others → s <:+: text
  given : ∀ v, .value v ∈ others → ∃ name, Json.given? values name = some v
  joined : first ++ others.flatMap Piece.chars = interpolateChars values text

variable {values}

theorem Parted.push {c : Char} {text first : List Char} {others : List Piece}
    (parted : Parted values text first others)
    (plain : interpolateChars values (c :: text) = c :: interpolateChars values text) :
    Parted values (c :: text) (c :: first) others where
  starts := List.cons_prefix_cons.mpr ⟨rfl, parted.starts⟩
  runs s member := List.infix_cons (parted.runs s member)
  given := parted.given
  joined := by rw [plain, ← parted.joined, List.cons_append]

theorem Parted.slot {first : List Char} {others : List Piece}
    (found : placeholder? rest = some (key, after)) (parted : Parted values after first others) :
    Parted values ('\x7b' :: rest) [] (slot values key :: .run first :: others) := by
  have split := eq_of_placeholder? found
  have later : after <:+: '\x7b' :: rest :=
    ⟨'\x7b' :: key ++ ['\x7d'], [], by rw [split]; simp⟩
  constructor
  case starts => exact List.nil_prefix
  case runs =>
    intro s member
    rcases List.mem_cons.mp member with here | member
    · unfold Interpolation.slot at here
      split at here
      · cases here
      · cases here
        exact ⟨[], after, by rw [split]; simp⟩
    rcases List.mem_cons.mp member with here | member
    · cases here
      exact parted.starts.isInfix.trans later
    · exact (parted.runs s member).trans later
  case given =>
    intro v member
    rcases List.mem_cons.mp member with here | member
    · unfold Interpolation.slot at here
      split at here
      · rename_i given
        cases here
        exact ⟨_, given⟩
      · cases here
    rcases List.mem_cons.mp member with here | member
    · cases here
    · exact parted.given v member
  case joined =>
    rw [interpolateChars_slot values found, ← chars_slot, ← parted.joined]
    rfl

theorem parted_pieces (values : Record Json) (text : List Char) : ∃ first others,
    pieces values text = .run first :: others ∧ Parted values text first others := by
  -- Along the recursion of `pieces`, which takes a text apart as `interpolateChars` does.
  induction text using pieces.induct with
  | case1 =>
    refine ⟨[], [], by rw [pieces], List.nil_prefix, nofun, nofun, ?_⟩
    rw [interpolateChars]
    rfl
  | case2 rest key after found ih =>
    obtain ⟨first, others, same, parted⟩ := ih
    exact ⟨_, _, by rw [pieces_slot values found, same], parted.slot found⟩
  | case3 rest none_found ih =>
    obtain ⟨first, others, same, parted⟩ := ih
    exact ⟨_, _, by rw [pieces_brace values none_found, same]; rfl,
      parted.push (interpolateChars_brace values none_found)⟩
  | case4 c rest other ih =>
    obtain ⟨first, others, same, parted⟩ := ih
    exact ⟨_, _, by rw [pieces_plain values other, same]; rfl,
      parted.push (interpolateChars_plain values other)⟩

end Pieces

end DeckPress.Interpolation
