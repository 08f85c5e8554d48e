import JsxTemplate.Binding.Part
import JsxTemplate.Text.Letter

/-!
# Resolving bindings

Text keeps its literal parts and turns each binding into an expression in
braces. The value of a prop is one expression, a template string or a string
literal, whichever its parts call for.
-/

namespace JsxTemplate.Binding

open Text

/-- An expression in braces. -/
def braced (expression : Text) : Text := ['{', ' '] ++ expression ++ [' ', '}']

/-- A part of a text as generated code writes it. -/
def textPart : Part → Text
  | .literal text => text
  | .binding expression => braced expression

/-- A text with its bindings as expressions in braces. -/
def resolveText (value : Text) : Text :=
  if Part.hasBinding (Part.lex value) then (Part.lex value).flatMap textPart else value

/-- Literal text inside a template string: a backslash stands before each
backslash, each backtick and each dollar sign that a brace follows. -/
def escapeTemplate : Text → Text
  | [] => []
  | '$' :: '{' :: s => '\\' :: '$' :: '{' :: escapeTemplate s
  | c :: s =>
    if c = '\\' ∨ c = '`' then '\\' :: c :: escapeTemplate s else c :: escapeTemplate s

/-- A part of a template string. -/
def templatePart : Part → Text
  | .literal text => escapeTemplate text
  | .binding expression => '$' :: braced expression

/-- Literal text inside a string in single quotes: a backslash stands before
each backslash and each single quote. -/
def escapeString (s : Text) : Text :=
  s.flatMap fun c => if c = '\\' ∨ c = '\'' then ['\\', c] else [c]

/-- A literal prop value. Quotes are chosen so that none has to be escaped; a
value with both kinds is written as a string expression. -/
def quoteLiteral (value : Text) : Text :=
  if '\'' ∉ value then '\'' :: value ++ ['\'']
  else if '"' ∉ value then '"' :: value ++ ['"']
  else braced ('\'' :: escapeString value ++ ['\''])

/-- An expression, with the spelling of a truth value made small. -/
def plainBoolean (expression : Text) : Text :=
  if lower expression = "true" ∨ lower expression = "false" then lower expression
  else expression

/-- The value of an attribute that is missing or empty is `true`. -/
def givenOrTrue : Option Text → Text
  | none | some [] => "true"
  | some value => value

/-- The right-hand side of a prop. -/
def resolveProp (value : Option Text) : Text :=
  let parts := Part.lex (givenOrTrue value)
  match Part.single? parts with
  | some expression => braced (plainBoolean expression)
  | none =>
    if Part.hasBinding parts then braced ('`' :: parts.flatMap templatePart ++ ['`'])
    else quoteLiteral (givenOrTrue value)

/-- The expression of a value that is one binding, else the value trimmed. -/
def unwrap (value : Text) : Text := (Part.single? (Part.lex value)).getD value.trim

/-- The spread of a value that is one binding. -/
def resolveSpread? (value : Option Text) : Option Text :=
  (Part.single? (Part.lex (value.getD []))).map fun expression => braced ("..." ++ expression)

end JsxTemplate.Binding
