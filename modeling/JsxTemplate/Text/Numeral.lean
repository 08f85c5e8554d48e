import JsxTemplate.Text.Blank
import JsxTemplate.Text.Digit

/-!
# Numerals

How numbers are written and read.
-/

namespace JsxTemplate.Text

/-- The decimal numeral of a natural number. -/
def ofNat (n : Nat) : Text := Nat.toDigits 10 n

/-- The decimal numeral of an integer. -/
def ofInt : Int → Text
  | .ofNat n => ofNat n
  | .negSucc n => '-' :: ofNat (n + 1)

/-- The last hexadecimal digits of a number, at least `width` of them and in
small letters. -/
def hex (width n : Nat) : Text :=
  let digits := Nat.toDigits 16 n
  List.replicate (width - digits.length) '0' ++ digits

/-- A hexadecimal digit of either case. -/
def isHexDigit (c : Char) : Bool :=
  c.isDigit || ('a' ≤ c && c ≤ 'f') || ('A' ≤ c && c ≤ 'F')

/-- The value of a hexadecimal digit. -/
def digitValue (c : Char) : Nat :=
  if c.isDigit then c.toNat - 0x30
  else if 'a' ≤ c then c.toNat - 0x61 + 10
  else c.toNat - 0x41 + 10

/-- The number that a run of digits writes. -/
def numeral (base : Nat) (digits : Text) : Nat :=
  digits.foldl (fun n c => n * base + digitValue c) 0

/-- The greatest number of decimal digits that are read as a number. -/
def maxDigits : Nat := 4300

/-- The number that decimal digits write, with single underscores between them. -/
def natural? (s : Text) : Option Nat :=
  let groups := s.split '_'
  match groups.flatten.mapM decimal? with
  | none => none
  | some digits =>
    if groups.all (!·.isEmpty) && digits.length ≤ maxDigits then
      some (digits.foldl (fun n d => n * 10 + d) 0)
    else none

/-- The blanks that may stand around a number: all but the four separators of
the control characters. -/
def isPadding (c : Char) : Bool := isBlank c && !(0x1C ≤ c.toNat && c.toNat ≤ 0x1F)

/-- The integer that a text writes, with padding around it and a sign before it. -/
def integer? (s : Text) : Option Int :=
  match ((s.dropWhile isPadding).reverse.dropWhile isPadding).reverse with
  | '-' :: s => (natural? s).map fun n => -Int.ofNat n
  | '+' :: s => (natural? s).map Int.ofNat
  | s => (natural? s).map Int.ofNat

end JsxTemplate.Text
