import JsxTemplate.Text.Basic

/-!
# Blank characters

The characters that separate words, and the three things done with them:
trimming a text, splitting it into words, and collapsing its runs of blanks.
-/

namespace JsxTemplate.Text

/-- White space: the characters of bidirectional class B, S or WS and the
space separators. The zero-width space and the byte order mark are not blank. -/
def isBlank (c : Char) : Bool :=
  let n := c.toNat
  (0x09 ≤ n && n ≤ 0x0D) || (0x1C ≤ n && n ≤ 0x20) || n == 0x85 || n == 0xA0 || n == 0x1680 ||
    (0x2000 ≤ n && n ≤ 0x200A) || n == 0x2028 || n == 0x2029 || n == 0x202F || n == 0x205F ||
    n == 0x3000

/-- Drops the blanks at the front. -/
def trimStart (s : Text) : Text := s.dropWhile isBlank

/-- Drops the blanks at the back. -/
def trimEnd : Text → Text
  | [] => []
  | c :: s =>
    match trimEnd s with
    | [] => if isBlank c then [] else [c]
    | d :: r => c :: d :: r

/-- Drops the blanks at both ends. -/
def trim (s : Text) : Text := trimEnd (trimStart s)

/-- Is there nothing but blanks? -/
def blank (s : Text) : Bool := s.all isBlank

/-- The maximal runs of characters that are not blank. -/
def words : Text → List Text
  | [] => []
  | c :: s =>
    if isBlank c then words s
    else
      match s, words s with
      | d :: _, w :: ws => if isBlank d then [c] :: w :: ws else (c :: w) :: ws
      | _, ws => [c] :: ws

/-- The words of a text with one space between each two. -/
def collapse (s : Text) : Text := [' '].intercalate (words s)

end JsxTemplate.Text
