import JsxTemplate.Markup.Event
import JsxTemplate.Markup.Reference
import JsxTemplate.Text.Blank
import JsxTemplate.Text.Letter

/-!
# Tags

Tags are read tolerantly: attributes may run together after a closing quote,
slashes between them are skipped, and a quote that never closes belongs to the
name or the value it stands in. A closing tag ends at the first `>`.
-/

namespace JsxTemplate.Markup

open Text

/-- A character of a tag's name. -/
def isTagChar (c : Char) : Bool :=
  !(c == '\t' || c == '\n' || c == '\r' || c == '\x0C' || c == ' ' || c == '/' || c == '>' ||
    c == '\x00')

/-- A character that begins an attribute's name. -/
def isAttrStart (c : Char) : Bool := !(isBlank c || c == '/' || c == '>')

/-- A character that continues an attribute's name. -/
def isAttrChar (c : Char) : Bool := isAttrStart c && c != '='

/-- A character of a value without quotes. -/
def isBareChar (c : Char) : Bool := !(isBlank c || c == '>')

def isQuote (c : Char) : Bool := c == '\'' || c == '"'

/-- Does a text end in a character after which an attribute may begin? -/
def endsOpen (s : Text) : Bool := s.getLast?.any fun c => isQuote c || isBlank c || c == '/'

/-- Skips blanks and slashes, up to the slash of a final `/>`. -/
def skipGap : Text → Text
  | [] => []
  | '/' :: '>' :: s => '/' :: '>' :: s
  | c :: s => if isBlank c || c == '/' then skipGap s else c :: s

/-- A value read after an attribute's name, and the text after it. -/
structure Assigned where
  value : Text
  quoted : Bool
  rest : Text
deriving DecidableEq, Repr

/-- The value that follows the equals signs. When its quote never closes, the
value is empty if a blank stands before the quote, and starts at the last of
several equals signs if none does; a single one then assigns nothing. -/
def assigned? (s : Text) : Option Assigned :=
  let signs := (trimStart s).takeWhile (· == '=')
  let afterSigns := (trimStart s).dropWhile (· == '=')
  let here := trimStart afterSigns
  if signs = [] then none
  else
    match here with
    | [] => some ⟨[], false, []⟩
    | q :: inner =>
      if isQuote q then
        match cut? [q] inner with
        | some (value, rest) => some ⟨value, true, rest⟩
        | none =>
          if here.length < afterSigns.length then some ⟨[], false, afterSigns⟩
          else if 1 < signs.length then
            some ⟨'=' :: here.takeWhile isBareChar, false, here.dropWhile isBareChar⟩
          else none
      else some ⟨here.takeWhile isBareChar, false, here.dropWhile isBareChar⟩

/-- The value of an attribute called `name` as it is written, if the text after it
gives one, what follows, and whether the next attribute may begin right there. -/
def attrTail (name s : Text) : Option Text × Text × Bool :=
  match assigned? s with
  | some a => (some a.value, a.rest, a.quoted)
  | none => (none, s, endsOpen name)

theorem skipGap_suffix (s : Text) : skipGap s <:+ s := by
  fun_induction skipGap s with
  | case1 => exact List.suffix_rfl
  | case2 => exact List.suffix_rfl
  | case3 c s _ _ ih => exact ih.trans (List.suffix_cons _ _)
  | case4 => exact List.suffix_rfl

theorem suffix_of_assigned? {s : Text} {a : Assigned} (h : assigned? s = some a) :
    a.rest <:+ s := by
  have hsigns : (trimStart s).dropWhile (· == '=') <:+ s :=
    (List.dropWhile_suffix _).trans (List.dropWhile_suffix _)
  have hhere : trimStart ((trimStart s).dropWhile (· == '=')) <:+ s :=
    (List.dropWhile_suffix _).trans hsigns
  have hbare := (List.dropWhile_suffix isBareChar
    (l := trimStart ((trimStart s).dropWhile (· == '=')))).trans hhere
  unfold assigned? at h
  simp only at h
  split at h
  · simp at h
  · split at h
    · simp only [Option.some.injEq] at h
      rw [← h]
      exact List.nil_suffix
    · next q inner hq =>
      split at h
      · split at h
        · next value rest hcut =>
          simp only [Option.some.injEq] at h
          rw [← h]
          rw [hq, eq_append_of_cut? hcut] at hhere
          exact (List.suffix_append _ _).trans ((List.suffix_cons _ _).trans hhere)
        · split at h
          · simp only [Option.some.injEq] at h
            rw [← h]
            exact hsigns
          · split at h
            · simp only [Option.some.injEq] at h
              rw [← h]
              exact hq ▸ hbare
            · simp at h
      · simp only [Option.some.injEq] at h
        rw [← h]
        exact hq ▸ hbare

theorem attrTail_suffix (name s : Text) : (attrTail name s).2.1 <:+ s := by
  unfold attrTail
  split
  · next a h => exact suffix_of_assigned? h
  · exact List.suffix_rfl

/-- The attributes at the start of a text, their values as they are written, and
the text after them. `fresh` says whether an attribute may begin right there. -/
def attributes (fresh : Bool) (s : Text) : Attrs × Text :=
  match s with
  | [] => ([], [])
  | c :: t =>
    if fresh && isAttrStart c then
      let name := c :: t.takeWhile isAttrChar
      let tail := attrTail name (t.dropWhile isAttrChar)
      let next := skipGap tail.2.1
      let more := attributes (tail.2.2 || next.length < tail.2.1.length) next
      ((lower name, tail.1) :: more.1, more.2)
    else ([], c :: t)
termination_by s.length
decreasing_by
  have := ((skipGap_suffix _).trans
    ((attrTail_suffix (c :: t.takeWhile isAttrChar) (t.dropWhile isAttrChar)).trans
      (List.dropWhile_suffix isAttrChar))).length_le
  simp only [List.length_cons]
  omega

theorem attributes_suffix (fresh : Bool) (s : Text) : (attributes fresh s).2 <:+ s := by
  fun_induction attributes fresh s with
  | case1 => exact List.suffix_rfl
  | case2 fresh c t h name tail next more ih =>
    exact ih.trans ((skipGap_suffix _).trans ((attrTail_suffix _ _).trans
      ((List.dropWhile_suffix _).trans (List.suffix_cons _ _))))
  | case3 => exact List.suffix_rfl

/-- A complete reading, unless a value among the attributes holds a number with
too many digits. -/
def complete (written : Attrs) (event : Event) (rest : Text) : Reading :=
  match written.findSome? fun (_, value) => value.bind longNumber? with
  | some digits => .fault (.longNumber digits)
  | none => .done event rest

theorem rest_of_complete {written : Attrs} {event e : Event} {rest r : Text}
    (h : complete written event rest = .done e r) : rest = r := by
  unfold complete at h
  split at h
  · simp at h
  · simp only [Reading.done.injEq] at h
    exact h.2

/-- Reads the tag after an opening bracket. What is no tag after all is text. -/
def readOpening (s : Text) : Reading :=
  let name := s.takeWhile isTagChar
  let afterName := s.dropWhile isTagChar
  let inside := skipGap afterName
  let (written, rest) := attributes (inside.length < afterName.length || endsOpen name) inside
  let attrs := written.map fun (name, value) => (name, value.map unescape)
  match rest with
  | '>' :: rest => complete written (.opening (lower name) attrs) rest
  | '/' :: '>' :: rest => complete written (.empty (lower name) attrs) rest
  | [] => .unfinished
  | c :: rest =>
    if c.isAlpha || c == '=' || c == '/' then .unfinished
    else complete written (.text ('<' :: s.take (s.length - (c :: rest).length))) (c :: rest)

theorem suffix_of_readOpening {e : Event} {s rest : Text} (h : readOpening s = .done e rest) :
    rest <:+ s := by
  have hrest : ∀ fresh, (attributes fresh (skipGap (s.dropWhile isTagChar))).2 <:+ s :=
    fun fresh => (attributes_suffix fresh _).trans
      ((skipGap_suffix _).trans (List.dropWhile_suffix _))
  unfold readOpening at h
  simp only at h
  split at h
  · next r hr =>
    rw [← rest_of_complete h]
    exact (List.suffix_cons _ _).trans (hr ▸ hrest _)
  · next r hr =>
    rw [← rest_of_complete h]
    exact (List.suffix_cons _ _).trans ((List.suffix_cons _ _).trans (hr ▸ hrest _))
  · simp at h
  · next c r _ _ hr =>
    split at h
    · simp at h
    · rw [← rest_of_complete h]
      exact hr ▸ hrest _

/-- A character that continues the name of a closing tag. -/
def isClosingChar (c : Char) : Bool :=
  c.isAlphanum || c == '-' || c == '.' || c == ':' || c == '_'

/-- The name that stands alone between blanks. -/
def loneName? (body : Text) : Option Text :=
  match trimStart body with
  | [] => none
  | c :: s =>
    if c.isAlpha && blank (s.dropWhile isClosingChar) then some (c :: s.takeWhile isClosingChar)
    else none

/-- The name at the very start, whatever follows it. -/
def leadingName? : Text → Option Text
  | [] => none
  | c :: s => if c.isAlpha then some ((c :: s).takeWhile isTagChar) else none

/-- What a closing tag with these characters before its `>` means. -/
def closingEvent (body : Text) : Event :=
  match (loneName? body).or (leadingName? body) with
  | some name => .closing (lower name)
  | none => if body = [] then .silent else .comment

/-- Reads the tag after a bracket and a slash. -/
def readClosing (s : Text) : Reading :=
  match cut? ">" s with
  | some (body, rest) => .done (closingEvent body) rest
  | none => .unfinished

theorem suffix_of_readClosing {e : Event} {s rest : Text} (h : readClosing s = .done e rest) :
    rest <:+ s := by
  unfold readClosing at h
  split at h
  · next body r hcut =>
    simp only [Reading.done.injEq] at h
    rw [← h.2, eq_append_of_cut? hcut]
    exact List.suffix_append _ _
  · simp at h

end JsxTemplate.Markup
