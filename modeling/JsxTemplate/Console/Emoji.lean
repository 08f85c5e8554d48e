import JsxTemplate.Console.Emoji.Names
import JsxTemplate.Text.Blank
import JsxTemplate.Text.Letter

/-!
# Emoji codes

A name between two colons stands for an emoji. It may end by asking for the
plain or for the coloured form. A code that names nothing stays as it is.
-/

namespace JsxTemplate.Console

open Text

/-- The emoji with this name, in capitals or not. -/
def emoji? (name : Text) : Option Text :=
  (emojiNames.find? fun (known, _) => known.toList = lower name).map fun (_, value) => value.toList

/-- The ends of a name that ask for a form, with the selector of that form. -/
def forms : List (String × Char) := [("-text", '\uFE0E'), ("-emoji", '\uFE0F')]

/-- What the code with these characters between its colons stands for. -/
def codeValue? (code : Text) : Option Text :=
  match forms.find? fun (ending, _) => ending.toList.isSuffixOf code with
  | some (ending, selector) =>
    (emoji? (code.take (code.length - ending.length))).map (· ++ [selector])
  | none => emoji? code

/-- A character inside a code. -/
def isCodeChar (c : Char) : Bool := c != ':' && !isBlank c

/-- The code at the start of a text: what stands between its colons, and the
text after it. -/
def code? : Text → Option (Text × Text)
  | ':' :: s =>
    match s.dropWhile isCodeChar with
    | ':' :: rest => some (s.takeWhile isCodeChar, rest)
    | _ => none
  | _ => none

theorem length_lt_of_code? {s code rest : Text} (h : code? s = some (code, rest)) :
    rest.length < s.length := by
  unfold code? at h
  split at h
  · next t =>
    split at h
    · next r hr =>
      simp only [Option.some.injEq, Prod.mk.injEq] at h
      have hsuffix : ':' :: r <:+ t := hr ▸ List.dropWhile_suffix _
      have := hsuffix.length_le
      simp only [List.length_cons] at this ⊢
      rw [← h.2]
      omega
    · simp at h
  · simp at h

/-- A text with its codes replaced. -/
def withEmoji (s : Text) : Text :=
  match s with
  | [] => []
  | c :: t =>
    match _h : code? (c :: t) with
    | some (code, rest) => (codeValue? code).getD (':' :: code ++ ":") ++ withEmoji rest
    | none => c :: withEmoji t
termination_by s.length
decreasing_by
  · exact length_lt_of_code? _h
  · simp

end JsxTemplate.Console
