import JsxTemplate.Console.Emoji
import JsxTemplate.Console.Literal
import JsxTemplate.Console.Style
import JsxTemplate.Text.Identifier
import JsxTemplate.Text.Quoted
import JsxTemplate.Text.Width

/-!
# Styled lines

A line for the console switches styles by tags in square brackets: `[red]`
begins one, `[/red]` ends it and `[/]` ends the innermost. A backslash before a
tag keeps it as text. Only the text of a line is kept here, with its emoji codes
replaced, without the characters that would move the cursor, and with its tabs
filled up with spaces.
-/

namespace JsxTemplate.Console

open Text

/-- Why a line cannot be shown. -/
inductive StyledFault where
  /-- A closing tag that closes no open one; `tag` is what it says. -/
  | notOpen (tag : Text) (position : Nat)
  /-- A closing tag where nothing is open. -/
  | nothingOpen (position : Nat)
  /-- The arguments of a handler are no literal. -/
  | arguments (given whole : Text) (f : LiteralFault)
  /-- A component of a colour is left out. -/
  | emptyComponent
deriving DecidableEq, Repr

def StyledFault.message : StyledFault → Text
  | .notOpen tag position =>
    "closing tag '[" ++ tag ++ "]' at position " ++ Text.ofNat position ++
      " doesn't match any open tag"
  | .nothingOpen position =>
    "closing tag '[/]' at position " ++ Text.ofNat position ++ " has nothing to close"
  | .arguments given whole f =>
    let place := if f.isOfMeaning then whole.quoted else given.quoted ++ " in " ++ whole.quoted
    "error parsing " ++ place ++ "; " ++ f.message
  | .emptyComponent => "invalid literal for int() with base 10: ''"

/-- A part of a styled line: text, or a tag by what stands in its brackets. -/
inductive StyledPart where
  | text (t : Text)
  | tag (inner : Text) (position : Nat)
deriving DecidableEq, Repr

/-- A character that begins a tag after its bracket. -/
def isTagStart (c : Char) : Bool := c.isLower || c == '#' || c == '/' || c == '@'

/-- The tag at the start of a text: what stands in its brackets, and what
follows it. -/
def tag? : Text → Option (Text × Text)
  | '[' :: c :: s =>
    match cut? "]" (c :: s) with
    | some (inner, rest) =>
      if isTagStart c ∧ '[' ∉ inner then some (inner, rest) else none
    | none => none
  | _ => none

theorem length_lt_of_tag? {s inner rest : Text} (h : tag? s = some (inner, rest)) :
    rest.length < s.length := by
  unfold tag? at h
  split at h
  · next c t =>
    split at h
    · next i r hcut =>
      split at h
      · simp only [Option.some.injEq, Prod.mk.injEq] at h
        have := congrArg List.length (eq_append_of_cut? hcut)
        simp only [List.length_append, List.length_cons] at this ⊢
        rw [← h.2]
        omega
      · simp at h
    · simp at h
  · simp at h

/-- A text as a part, if there is any. -/
def textParts (t : Text) : List StyledPart := if t = [] then [] else [.text t]

/-- The tag after some backslashes, as parts. Two backslashes stand for one, and
a single one keeps the tag as text. -/
def tagParts (position slashes : Nat) (inner : Text) : List StyledPart :=
  textParts (List.replicate (slashes / 2) '\\') ++
    if slashes % 2 = 1 then [.text ('[' :: inner ++ "]")]
    else [.tag inner (position + slashes)]

/-- The parts of a line. `pending` is text before `s` that no tag has ended yet. -/
def parts (position : Nat) (pending s : Text) : List StyledPart :=
  match s with
  | [] => textParts pending
  | c :: t =>
    let slashes := ((c :: t).takeWhile (· == '\\')).length
    match _h : tag? ((c :: t).drop slashes) with
    | some (inner, rest) =>
      textParts pending ++ tagParts position slashes inner ++
        parts (position + slashes + inner.length + 2) [] rest
    | none =>
      if slashes = 0 then parts (position + 1) (pending ++ [c]) t
      else
        let passed := List.replicate slashes '\\'
        parts (position + slashes) (pending ++ passed) ((c :: t).drop slashes)
termination_by s.length
decreasing_by
  · have := length_lt_of_tag? _h
    simp only [List.length_drop] at this
    omega
  · simp
  · simp only [List.length_drop, List.length_cons]
    omega

/-- A bracket that begins no tag needs no backslash, and loses one. -/
def dropSlashes : Text → Text
  | '\\' :: '[' :: s => '[' :: dropSlashes s
  | c :: s => c :: dropSlashes s
  | [] => []

/-- A tag that has been opened: the normal form of its style, and what follows
an equals sign in it. -/
structure OpenTag where
  name : Text
  argument : Option Text
deriving DecidableEq, Repr

/-- The name of a handler and what is handed to it, as far as the text after an
equals sign has that form. -/
def handlerArguments (s : Text) : Text :=
  match s.dropWhile fun c => isWordChar c || c == '.' with
  | [] => "()"
  | '(' :: inner =>
    if inner.getLast? = some ')' ∧ '\n' ∉ inner then '(' :: inner else s
  | _ => s

/-- What a handler's tag does when it is closed: its arguments are looked at. -/
def OpenTag.close (t : OpenTag) : Except StyledFault Unit :=
  match t.name, t.argument with
  | '@' :: _, some (c :: whole) =>
    let given := handlerArguments (trim (c :: whole))
    match Literal.fault? given with
    | some f => .error (.arguments given (c :: whole) f)
    | none => .ok ()
  | _, _ => .ok ()

/-- The normal form of a style that a tag names. -/
def tagStyle (name : Text) : Except StyledFault Text :=
  match normalStyle? name with
  | some style => .ok style
  | none => .error .emptyComponent

/-- Takes the innermost open tag with this name out of the open ones. -/
def takeOpen (name : Text) : List OpenTag → Option (OpenTag × List OpenTag)
  | [] => none
  | t :: ts =>
    if t.name = name then some (t, ts)
    else (takeOpen name ts).map fun (found, others) => (found, t :: others)

/-- The open tags after one more tag, innermost first. -/
def follow (opened : List OpenTag) (inner : Text) (position : Nat) :
    Except StyledFault (List OpenTag) := do
  let (name, argument) := match cut? "=" inner with
    | some (name, argument) => (name, some argument)
    | none => (inner, none)
  match name with
  | '/' :: closed =>
    if blank closed then
      match opened with
      | [] => .error (.nothingOpen position)
      | t :: ts =>
        t.close
        return ts
    else
      match takeOpen (← tagStyle (trim closed)) opened with
      | none => .error (.notOpen inner position)
      | some (t, ts) =>
        t.close
        return ts
  | _ => return ⟨← tagStyle name, argument⟩ :: opened

/-- The text of the parts of a line. -/
def textOf (opened : List OpenTag) : List StyledPart → Except StyledFault Text
  | [] => .ok []
  | .text t :: ps => do return withEmoji (dropSlashes t) ++ (← textOf opened ps)
  | .tag inner position :: ps => do textOf (← follow opened inner position) ps

/-- The characters that would ring, or move the cursor back or down. -/
def movesCursor (c : Char) : Bool :=
  c == '\x07' || c == '\x08' || c == '\x0B' || c == '\x0C' || c == '\r'

/-- A text with its tabs filled up to every eighth column, from this one on. -/
def fillTabs (column : Nat) : Text → Text
  | [] => []
  | c :: s =>
    if c = '\n' then c :: fillTabs 0 s
    else if c = '\t' then
      List.replicate (8 - column % 8) ' ' ++ fillTabs (column + (8 - column % 8)) s
    else c :: fillTabs (column + charWidth c) s

/-- The text of a styled line as the console shows it. -/
def plain (line : Text) : Except StyledFault Text := do
  let text ← textOf [] (parts 0 [] line)
  return fillTabs 0 (text.filter (!movesCursor ·))

end JsxTemplate.Console
