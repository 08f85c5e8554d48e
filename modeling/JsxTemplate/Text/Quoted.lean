import JsxTemplate.Text.Numeral
import JsxTemplate.Text.Printable

/-!
# Quoted texts

How messages show a text: between quotes, with everything that would not be
seen written as an escape.
-/

namespace JsxTemplate.Text

/-- One character of a text quoted with `quote`. -/
def quoteChar (quote c : Char) : Text :=
  if c = quote ∨ c = '\\' then ['\\', c]
  else if c = '\n' then "\\n"
  else if c = '\r' then "\\r"
  else if c = '\t' then "\\t"
  else if isPrintable c then [c]
  else if c.toNat < 0x100 then "\\x" ++ hex 2 c.toNat
  else if c.toNat < 0x10000 then "\\u" ++ hex 4 c.toNat
  else "\\U" ++ hex 8 c.toNat

/-- A text between single quotes, or between double ones when it holds a
single quote and no double one. -/
def quoted (s : Text) : Text :=
  let quote := if '\'' ∈ s ∧ '"' ∉ s then '"' else '\''
  quote :: s.flatMap (quoteChar quote) ++ [quote]

end JsxTemplate.Text
