import JsxTemplate.Text.Numeral
import JsxTemplate.Text.Quoted

/-!
# Markup events

A reader of markup hands over a template as a list of pieces. Each piece keeps
the characters it was read from, so that the pieces in order spell the text and
the line of each one can be counted off.
-/

namespace JsxTemplate.Markup

/-- The attributes of a tag in the order they are written. An attribute written
without a value has none. -/
abbrev Attrs := List (Text × Option Text)

/-- What a piece of markup means for the tree that is built from it. -/
inductive Event where
  /-- An opening tag. -/
  | opening (name : Text) (attrs : Attrs)
  /-- A tag that opens and closes an element at once. -/
  | empty (name : Text) (attrs : Attrs)
  /-- A closing tag. -/
  | closing (name : Text)
  /-- Characters of the text, references still encoded. -/
  | text (chunk : Text)
  /-- A comment, which parts the text around it. -/
  | comment
  /-- A declaration, a processing instruction or a dropped character. -/
  | silent
deriving DecidableEq, Repr

/-- A stretch of markup and what it means. -/
structure Piece where
  raw : Text
  event : Event
deriving DecidableEq, Repr

/-- An event and the line on which its piece begins. -/
structure Located where
  line : Nat
  event : Event
deriving DecidableEq, Repr

/-- Counts the lines of a text's pieces off, the first piece being on `line`. -/
def locate (line : Nat) : List Piece → List Located
  | [] => []
  | p :: ps => ⟨line, p.event⟩ :: locate (line + p.raw.count '\n') ps

/-- What the reader gives up on. -/
inductive Fault where
  /-- A marked section does not begin with a name; `near` is how it begins. -/
  | sectionName (near : Text)
  /-- A marked section has a keyword that is none. -/
  | sectionKeyword (keyword : Text)
  /-- A character number has too many digits. -/
  | longNumber (digits : Nat)
deriving DecidableEq, Repr

def Fault.message : Fault → Text
  | .sectionName near => "expected name token at " ++ near.quoted
  | .sectionKeyword keyword => "unknown status keyword " ++ keyword.quoted ++ " in marked section"
  | .longNumber digits =>
    "Exceeds the limit (" ++ Text.ofNat Text.maxDigits ++
      " digits) for integer string conversion: value has " ++ Text.ofNat digits ++
      " digits; use sys.set_int_max_str_digits() to increase the limit"

/-- What a reader makes of markup that begins with an angle bracket. -/
inductive Reading where
  /-- It is complete, and `rest` follows it. -/
  | done (event : Event) (rest : Text)
  /-- The text ends before it does. -/
  | unfinished
  | fault (f : Fault)
deriving DecidableEq, Repr

end JsxTemplate.Markup
