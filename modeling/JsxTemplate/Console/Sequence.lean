import JsxTemplate.Text.Basic

/-!
# Control sequences

A control sequence tells a console what to do instead of what to show: an escape
character, a bracket, parameters, intermediate characters and a final one.
-/

namespace JsxTemplate.Console

/-- A character of the parameters. -/
def isParameter (c : Char) : Bool := '0' ≤ c && c ≤ '?'

/-- A character between the parameters and the end. -/
def isIntermediate (c : Char) : Bool := ' ' ≤ c && c ≤ '/'

/-- A character that ends a sequence. -/
def isFinal (c : Char) : Bool := '@' ≤ c && c ≤ '~'

/-- What follows the control sequence at the start of a text. -/
def afterSequence? : Text → Option Text
  | '\x1B' :: '[' :: s =>
    match (s.dropWhile isParameter).dropWhile isIntermediate with
    | c :: rest => if isFinal c then some rest else none
    | [] => none
  | _ => none

theorem length_lt_of_afterSequence? {s rest : Text} (h : afterSequence? s = some rest) :
    rest.length < s.length := by
  unfold afterSequence? at h
  split at h
  · next t =>
    split at h
    · next c r hr =>
      split at h
      · simp only [Option.some.injEq] at h
        have hsuffix : c :: r <:+ t :=
          hr ▸ (List.dropWhile_suffix _).trans (List.dropWhile_suffix _)
        have := hsuffix.length_le
        simp only [List.length_cons] at this ⊢
        rw [← h]
        omega
      · simp at h
    · simp at h
  · simp at h

/-- A text without its control sequences. -/
def withoutSequences (s : Text) : Text :=
  match s with
  | [] => []
  | c :: t =>
    match _h : afterSequence? (c :: t) with
    | some rest => withoutSequences rest
    | none => c :: withoutSequences t
termination_by s.length
decreasing_by
  · exact length_lt_of_afterSequence? _h
  · simp

end JsxTemplate.Console
