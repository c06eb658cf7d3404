import DeckPress.Json.Plain

/-!
Placeholders in slide text. A placeholder is a brace, a key that is not empty and holds no closing
brace, and a closing brace. Text is read once from left to right, so what a value brings in is
never read again.
-/

namespace DeckPress.Interpolation

/-- The key of a placeholder whose opening brace has been read, and the text behind it. -/
def placeholder? (text : List Char) : Option (List Char × List Char) :=
  match text.takeWhile (· != '\x7d'), text.dropWhile (· != '\x7d') with
  | c :: key, _ :: rest => some (c :: key, rest)
  | _, _ => none

theorem length_lt_of_placeholder? {text key rest : List Char}
    (h : placeholder? text = some (key, rest)) : rest.length < text.length := by
  unfold placeholder? at h
  split at h
  next c found b after taken dropped =>
    have whole := congrArg List.length
      (List.takeWhile_append_dropWhile (p := (· != '\x7d')) (l := text))
    rw [taken, dropped] at whole
    simp only [List.length_append, List.length_cons] at whole
    cases h
    omega
  next => cases h

/-- What stands for a placeholder: the value of its key in style form, or the placeholder itself
when the key is absent or null. -/
def replacement (values : Record Json) (key : List Char) : List Char :=
  match Json.given? values (String.ofList key) with
  | some value => value.styleText.toList
  | none => '\x7b' :: key ++ ['\x7d']

def interpolateChars (values : Record Json) : List Char → List Char
  | [] => []
  | c :: rest =>
    if c = '\x7b' then
      match _h : placeholder? rest with
      | some (key, after) => replacement values key ++ interpolateChars values after
      | none => c :: interpolateChars values rest
    else c :: interpolateChars values rest
termination_by text => text.length
decreasing_by
  all_goals simp_wf
  have := length_lt_of_placeholder? _h
  omega

def interpolate (text : String) (values : Record Json) : String :=
  String.ofList (interpolateChars values text.toList)

end DeckPress.Interpolation
