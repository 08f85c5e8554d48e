import JsxTemplate.Markup.Reference.Names
import JsxTemplate.Text.Numeral

/-!
# Character references in attribute values

An attribute value may write a character by its number or by its name. A
reference that stands for nothing stays as it is written, and a name is cut
back to the longest known one when it runs on into the text after it.
-/

namespace JsxTemplate.Markup

open Text

/-- The characters that the numbers 0x80 to 0x9F stand for, in this order. -/
def windowsNumbers : List Nat :=
  [0x20AC, 0x81, 0x201A, 0x192, 0x201E, 0x2026, 0x2020, 0x2021, 0x2C6, 0x2030, 0x160, 0x2039,
    0x152, 0x8D, 0x17D, 0x8F, 0x90, 0x2018, 0x2019, 0x201C, 0x201D, 0x2022, 0x2013, 0x2014,
    0x2DC, 0x2122, 0x161, 0x203A, 0x153, 0x9D, 0x17E, 0x178]

/-- The code points that a number may not name; such a reference vanishes. -/
def isForbidden (n : Nat) : Bool :=
  (0x1 ≤ n && n ≤ 0x8) || n == 0xB || (0xE ≤ n && n ≤ 0x1F) || n == 0x7F ||
    (0xFDD0 ≤ n && n ≤ 0xFDEF) || n % 0x10000 == 0xFFFE || n % 0x10000 == 0xFFFF

/-- What the character number `n` stands for. -/
def ofNumber (n : Nat) : Text :=
  if n = 0 ∨ (0xD800 ≤ n ∧ n ≤ 0xDFFF) ∨ 0x10FFFF < n then ['�']
  else if 0x80 ≤ n ∧ n ≤ 0x9F then [Char.ofNat (windowsNumbers.getD (n - 0x80) n)]
  else if isForbidden n then []
  else [Char.ofNat n]

/-- What a name stands for, written with its semicolon or without. -/
def ofName? (name : Text) : Option Text :=
  let entry (table : List (String × String)) (name : Text) : Option Text :=
    (table.find? fun (known, _) => known.toList = name).map fun (_, value) => value.toList
  if name.getLast? = some ';' then
    (entry shortNames name.dropLast).or (entry longNames name.dropLast)
  else entry shortNames name

/-- The value of the longest known name among the first `n` characters of
`name`, but at least two of them, with the characters it leaves over. -/
def longestName? (name : Text) : Nat → Option Text
  | 0 | 1 => none
  | n + 2 =>
    match ofName? (name.take (n + 2)) with
    | some value => some (value ++ name.drop (n + 2))
    | none => longestName? name (n + 1)

/-- Drops one semicolon. -/
def skipSemicolon : Text → Text
  | ';' :: s => s
  | s => s

/-- A character that can stand in a name. -/
def isNameChar (c : Char) : Bool :=
  !(c == '\t' || c == '\n' || c == '\x0C' || c == ' ' || c == '<' || c == '&' || c == '#' ||
    c == ';')

/-- The number that starts a text: what it stands for, and the text after it. -/
def numbered? (base : Nat) (isDigit : Char → Bool) (s : Text) : Option (Text × Text) :=
  match s.takeWhile isDigit with
  | [] => none
  | digits => some (ofNumber (numeral base digits), skipSemicolon (s.dropWhile isDigit))

/-- The name that starts a text, of at most 32 characters: what it stands for,
and the text after it. An unknown name stands for itself. -/
def named? (s : Text) : Option (Text × Text) :=
  match (s.takeWhile isNameChar).take 32 with
  | [] => none
  | run =>
    let rest := skipSemicolon (s.drop run.length)
    let name := s.take (s.length - rest.length)
    match ofName? name with
    | some value => some (value, rest)
    | none => some ((longestName? name (name.length - 1)).getD ('&' :: name), rest)

/-- The reference that starts after an ampersand. -/
def reference? : Text → Option (Text × Text)
  | '#' :: 'x' :: s => numbered? 16 isHexDigit s
  | '#' :: 'X' :: s => numbered? 16 isHexDigit s
  | '#' :: s => numbered? 10 Char.isDigit s
  | s => named? s

theorem skipSemicolon_suffix (s : Text) : skipSemicolon s <:+ s := by
  unfold skipSemicolon
  split
  · exact List.suffix_cons _ _
  · exact List.suffix_rfl

theorem suffix_of_numbered? {base : Nat} {isDigit : Char → Bool} {s value rest : Text}
    (h : numbered? base isDigit s = some (value, rest)) : rest <:+ s := by
  unfold numbered? at h
  split at h
  · simp at h
  · simp only [Option.some.injEq, Prod.mk.injEq] at h
    rw [← h.2]
    exact (skipSemicolon_suffix _).trans (List.dropWhile_suffix _)

theorem suffix_of_named? {s value rest : Text} (h : named? s = some (value, rest)) :
    rest <:+ s := by
  unfold named? at h
  split at h
  · simp at h
  · have hrest : ∀ n, skipSemicolon (s.drop n) <:+ s := fun n =>
      (skipSemicolon_suffix _).trans (List.drop_suffix n s)
    simp only at h
    split at h <;>
    · simp only [Option.some.injEq, Prod.mk.injEq] at h
      rw [← h.2]
      exact hrest _

theorem suffix_of_reference? {s value rest : Text} (h : reference? s = some (value, rest)) :
    rest <:+ s := by
  unfold reference? at h
  split at h
  · exact ((suffix_of_numbered? h).trans (List.suffix_cons _ _)).trans (List.suffix_cons _ _)
  · exact ((suffix_of_numbered? h).trans (List.suffix_cons _ _)).trans (List.suffix_cons _ _)
  · exact (suffix_of_numbered? h).trans (List.suffix_cons _ _)
  · exact suffix_of_named? h

/-- A text with every reference replaced by what it stands for. -/
def unescape (s : Text) : Text :=
  match s with
  | [] => []
  | c :: s =>
    if c = '&' then
      match _found : reference? s with
      | some (value, rest) => value ++ unescape rest
      | none => '&' :: unescape s
    else c :: unescape s
termination_by s.length
decreasing_by
  · have := (suffix_of_reference? _found).length_le
    simp only [List.length_cons]
    omega
  · simp
  · simp

/-- The number of digits of the first decimal character number that has too many
of them to be read. -/
def longNumber? : Text → Option Nat
  | [] => none
  | '&' :: '#' :: s =>
    let digits := (s.takeWhile Char.isDigit).length
    if maxDigits < digits then some digits else longNumber? s
  | _ :: s => longNumber? s

end JsxTemplate.Markup
