import JsxTemplate.Text.Blank

/-!
# Bindings

A value may hold bindings, expressions between double braces. Lexing parts it
into literal text and bindings. Every value has a reading: an opening that is
never closed and a span with nothing in it are literal text.
-/

namespace JsxTemplate

/-- A part of a value. -/
inductive Part where
  | literal (text : Text)
  /-- A span between double braces, without the blanks around its expression. -/
  | binding (expression : Text)
deriving DecidableEq, Repr

namespace Part

def openMark : Text := ['{', '{']

def closeMark : Text := ['}', '}']

/-- A literal part, unless there is nothing in it. -/
def ofLiteral : Text → List Part
  | [] => []
  | text => [.literal text]

/-- Splits a text around its first span: the text before the span, what stands
in it, and the text after it. -/
def firstSpan? (s : Text) : Option (Text × Text × Text) :=
  match Text.cut? openMark s with
  | none => none
  | some (before, inside) =>
    match Text.cut? closeMark inside with
    | none => none
    | some (inner, rest) => some (before, inner, rest)

theorem append_of_firstSpan? {s before inner rest : Text}
    (h : firstSpan? s = some (before, inner, rest)) :
    s = before ++ openMark ++ inner ++ closeMark ++ rest := by
  unfold firstSpan? at h
  split at h
  · simp at h
  · next hopen =>
    split at h
    · simp at h
    · next hclose =>
      simp only [Option.some.injEq, Prod.mk.injEq] at h
      obtain ⟨rfl, rfl, rfl⟩ := h
      rw [Text.eq_append_of_cut? hopen, Text.eq_append_of_cut? hclose]
      simp only [List.append_assoc]

/-- Lexes a text that follows the literal text `literal`. -/
def lexFrom (literal s : Text) : List Part :=
  match _found : firstSpan? s with
  | none => ofLiteral (literal ++ s)
  | some (before, inner, rest) =>
    if Text.blank inner then lexFrom (literal ++ before ++ openMark ++ inner ++ closeMark) rest
    else ofLiteral (literal ++ before) ++ .binding inner.trim :: lexFrom [] rest
termination_by s.length
decreasing_by
  all_goals
    have := congrArg List.length (append_of_firstSpan? _found)
    simp only [List.length_append, openMark, closeMark, List.length_cons, List.length_nil] at this
    omega

/-- The parts of a value in order. -/
def lex (s : Text) : List Part := lexFrom [] s

/-- The expression of a binding. -/
def expression? : Part → Option Text
  | .literal _ => none
  | .binding expression => some expression

/-- The expressions of the bindings in order. -/
def expressions (parts : List Part) : List Text := parts.filterMap expression?

/-- Is there a binding at all? -/
def hasBinding (parts : List Part) : Bool := parts.any (·.expression?.isSome)

/-- The expression of a value that is one binding and nothing else. -/
def single? : List Part → Option Text
  | [.binding expression] => some expression
  | _ => none

end Part

end JsxTemplate
