import JsxTemplate.Markup.Event
import JsxTemplate.Text.Blank
import JsxTemplate.Text.Letter

/-!
# Comments and declarations

The markup that carries no element: comments, processing instructions, the
document type and marked sections. Marked sections are the one place where the
reader gives up.
-/

namespace JsxTemplate.Markup

open Text

/-- Reads up to the first place where `close?` succeeds. -/
def readUntil (close? : Text → Option Text) (event : Event) (s : Text) : Reading :=
  match search close? s with
  | some (_, rest) => .done event rest
  | none => .unfinished

/-- The end of a comment: two dashes, blanks and a bracket. -/
def commentEnd? : Text → Option Text
  | '-' :: '-' :: s => after? ">" (trimStart s)
  | _ => none

/-- The end of an `if` section: a square bracket, blanks and a bracket. -/
def conditionEnd? : Text → Option Text
  | ']' :: s => after? ">" (trimStart s)
  | _ => none

/-- The end of any other section: two square brackets and a bracket, with
blanks anywhere between them. -/
def sectionEnd? : Text → Option Text
  | ']' :: s => conditionEnd? (trimStart s)
  | _ => none

/-- A character that continues a section's keyword. -/
def isKeywordChar (c : Char) : Bool := c.isAlphanum || c == '-' || c == '_' || c == '.'

def sectionKeywords : List String := ["temp", "cdata", "ignore", "include", "rcdata"]

def conditionKeywords : List String := ["if", "else", "endif"]

/-- Reads a marked section after its `<![`. -/
def readSection (s : Text) : Reading :=
  match s with
  | [] => .unfinished
  | c :: _ =>
    if c.isAlpha then
      let keyword := s.takeWhile isKeywordChar
      let blanks := (s.dropWhile isKeywordChar).takeWhile isBlank
      if s.length = keyword.length + blanks.length then .unfinished
      else if sectionKeywords.any (·.toList = lower keyword) then readUntil sectionEnd? .silent s
      else if conditionKeywords.any (·.toList = lower keyword) then
        readUntil conditionEnd? .silent s
      else .fault (.sectionKeyword (keyword ++ blanks))
    else .fault (.sectionName (("<![" ++ s).take 20))

/-- Reads what follows `<!`. Whatever is no known declaration is a comment up
to the next bracket. -/
def readDeclaration : Text → Reading
  | '-' :: '-' :: s => readUntil commentEnd? .comment s
  | '[' :: s => readSection s
  | s =>
    if lower (s.take 7) = "doctype" then readUntil (after? ">") .silent (s.drop 7)
    else readUntil (after? ">") .comment s

theorem suffix_of_after? {pat s rest : Text} (h : after? pat s = some rest) : rest <:+ s :=
  append_of_after? h ▸ List.suffix_append _ _

theorem suffix_of_commentEnd? {s rest : Text} (h : commentEnd? s = some rest) : rest <:+ s := by
  unfold commentEnd? at h
  split at h
  · exact (((suffix_of_after? h).trans (List.dropWhile_suffix _)).trans
      (List.suffix_cons _ _)).trans (List.suffix_cons _ _)
  · simp at h

theorem suffix_of_conditionEnd? {s rest : Text} (h : conditionEnd? s = some rest) :
    rest <:+ s := by
  unfold conditionEnd? at h
  split at h
  · exact ((suffix_of_after? h).trans (List.dropWhile_suffix _)).trans (List.suffix_cons _ _)
  · simp at h

theorem suffix_of_sectionEnd? {s rest : Text} (h : sectionEnd? s = some rest) : rest <:+ s := by
  unfold sectionEnd? at h
  split at h
  · exact ((suffix_of_conditionEnd? h).trans (List.dropWhile_suffix _)).trans
      (List.suffix_cons _ _)
  · simp at h

theorem suffix_of_readUntil {close? : Text → Option Text} {event e : Event} {s rest : Text}
    (hclose : ∀ {t r : Text}, close? t = some r → r <:+ t)
    (h : readUntil close? event s = .done e rest) : rest <:+ s := by
  unfold readUntil at h
  split at h
  · next before r hs =>
    obtain ⟨here, rfl, hr⟩ := eq_append_of_search hs
    simp only [Reading.done.injEq] at h
    rw [← h.2]
    exact (hclose hr).trans (List.suffix_append _ _)
  · simp at h

theorem suffix_of_readSection {e : Event} {s rest : Text} (h : readSection s = .done e rest) :
    rest <:+ s := by
  unfold readSection at h
  split at h
  · simp at h
  · split at h
    · simp only at h
      split at h
      · simp at h
      · split at h
        · exact suffix_of_readUntil suffix_of_sectionEnd? h
        · split at h
          · exact suffix_of_readUntil suffix_of_conditionEnd? h
          · simp at h
    · simp at h

theorem suffix_of_readDeclaration {e : Event} {s rest : Text}
    (h : readDeclaration s = .done e rest) : rest <:+ s := by
  unfold readDeclaration at h
  split at h
  · exact ((suffix_of_readUntil suffix_of_commentEnd? h).trans (List.suffix_cons _ _)).trans
      (List.suffix_cons _ _)
  · exact (suffix_of_readSection h).trans (List.suffix_cons _ _)
  · split at h
    · exact (suffix_of_readUntil suffix_of_after? h).trans (List.drop_suffix _ _)
    · exact suffix_of_readUntil suffix_of_after? h

end JsxTemplate.Markup
