import JsxTemplate.Console.Literal.Fault
import JsxTemplate.Text.Identifier
import JsxTemplate.Text.Printable
import JsxTemplate.Text.Utf8

/-!
# Tokens of literals

A literal is cut into tokens before its form is looked at. A line ends an
expression unless a bracket is open, and a line that begins further to the right
than the one before it says so. A text that cannot be cut is at fault, except
that some faults only count if the tokens are followed up to them.
-/

namespace JsxTemplate.Console.Literal

open Text

/-- The numbers that a literal can hold. -/
inductive Number where
  | real
  | imaginary
  /-- A whole number with too many digits to be read. -/
  | long (digits : Nat)
deriving DecidableEq, Repr

inductive Lexeme where
  | word (w : Text)
  | number (n : Number)
  /-- A string: the letters before it, and what stands between its quotes. -/
  | string (letters body : Text)
  | sign (s : Text)
  | lineEnd
  | indent
  | dedent
  | finish
  /-- The text is at fault here, if it is followed up to here. -/
  | broken (f : LiteralFault)
deriving DecidableEq, Repr

structure Token where
  lexeme : Lexeme
  /-- How many brackets are open after it. -/
  level : Nat
  line : Nat
  /-- Is it known with the token that the text ends behind it? -/
  last : Bool
deriving DecidableEq, Repr

/-- A character that a word may hold, as long as the word is not looked at. -/
def isWordLike (c : Char) : Bool := c.isAlphanum || c == '_' || 0x80 ≤ c.toNat

/-- Words that may follow a number without a blank, before a character that is no
part of a word. -/
def wordsAfterNumber : List String := ["and", "else", "for", "or", "not"]

/-- Words that may follow a number without a blank, whatever comes next. -/
def openWordsAfterNumber : List String := ["if", "in", "is"]

/-- Checks that a number of some form may end before this text. -/
def endOfNumber (form : NumberForm) (s : Text) : Except LiteralFault Text :=
  let wordFollows := wordsAfterNumber.any fun w =>
    match after? w.toList s with
    | some rest => !rest.head?.any isWordLike
    | none => false
  if wordFollows || openWordsAfterNumber.any (fun w => (after? w.toList s).isSome) then .ok s
  else if s.head?.any fun c => c.isAlphanum || c == '_' then .error (.badNumber form)
  else .ok s

/-- What follows the decimal digits that a text goes on with, after a first one. -/
def decimalTail : Text → Except LiteralFault Text
  | [] => .ok []
  | '_' :: s =>
    match s with
    | c :: s => if c.isDigit then decimalTail s else .error (.badNumber .decimal)
    | [] => .error (.badNumber .decimal)
  | c :: s => if c.isDigit then decimalTail s else .ok (c :: s)

/-- What follows the zeros that a text goes on with, after a first one. -/
def zeroTail : Text → Except LiteralFault Text
  | [] => .ok []
  | '_' :: s =>
    match s with
    | '0' :: s => zeroTail s
    | c :: s => if c.isDigit then .ok (c :: s) else .error (.badNumber .decimal)
    | [] => .error (.badNumber .decimal)
  | c :: s => if c = '0' then zeroTail s else .ok (c :: s)

/-- The digits of a form. -/
def isDigitOf (form : NumberForm) (c : Char) : Bool :=
  match form with
  | .hexadecimal => isHexDigit c
  | .octal => '0' ≤ c && c ≤ '7'
  | .binary => c == '0' || c == '1'
  | _ => c.isDigit

/-- What follows the digits of a number that is marked with its form. -/
def formTail (form : NumberForm) (afterDigit : Bool) : Text → Except LiteralFault Text
  | [] => if afterDigit then .ok [] else .error (.badNumber form)
  | c :: s =>
    let fault (c : Char) : LiteralFault :=
      if c.isDigit then .badDigit c form else .badNumber form
    if isDigitOf form c then formTail form true s
    else if c = '_' then
      match s with
      | d :: s => if isDigitOf form d then formTail form true s else .error (fault d)
      | [] => .error (.badNumber form)
    else if afterDigit then
      if c.isDigit then .error (fault c) else endOfNumber form (c :: s)
    else .error (fault c)

/-- The end of a number that has no exponent. -/
def plainEnd (n : Number) (s : Text) : Except LiteralFault (Number × Text) :=
  match s with
  | 'j' :: s | 'J' :: s => (endOfNumber .imaginary s).map (.imaginary, ·)
  | s => (endOfNumber .decimal s).map (n, ·)

/-- The end of a number, from its exponent on. -/
def exponentEnd (n : Number) (s : Text) : Except LiteralFault (Number × Text) :=
  match s with
  | e :: t =>
    if e = 'e' ∨ e = 'E' then
      match t with
      | c :: u =>
        if c = '+' ∨ c = '-' then
          match u with
          | d :: u =>
            if d.isDigit then (decimalTail u).bind (plainEnd .real)
            else .error (.badNumber .decimal)
          | [] => .error (.badNumber .decimal)
        else if c.isDigit then (decimalTail u).bind (plainEnd .real)
        else (endOfNumber .decimal s).map (n, ·)
      | [] => (endOfNumber .decimal s).map (n, ·)
    else plainEnd n s
  | [] => .ok (n, [])

/-- The end of a number, after its point. -/
def fractionEnd (s : Text) : Except LiteralFault (Number × Text) :=
  match s with
  | c :: t =>
    if c.isDigit then (decimalTail t).bind (exponentEnd .real) else exponentEnd .real s
  | [] => .ok (.real, [])

/-- The end of a number, from where its whole part ends. `digits` is how many count
in it, and `padded` tells that it begins with a zero and is more than that. -/
def wholeEnd (digits : Nat) (padded : Bool) (s : Text) : Except LiteralFault (Number × Text) :=
  match s with
  | '.' :: t => fractionEnd t
  | c :: _ =>
    let n : Number := if maxDigits < digits then .long digits else .real
    if c = 'e' ∨ c = 'E' ∨ c = 'j' ∨ c = 'J' ∨ !padded then exponentEnd n s
    else .error .leadingZeros
  | [] =>
    if padded then .error .leadingZeros
    else .ok (if maxDigits < digits then .long digits else .real, [])

/-- Reads the number at the start of a text. -/
def readNumber (s : Text) : Except LiteralFault (Number × Text) :=
  let marked (form : NumberForm) (s : Text) := (formTail form false s).map (Number.real, ·)
  let digitsBefore (rest : Text) := ((s.take (s.length - rest.length)).filter Char.isDigit).length
  match s with
  | '.' :: t => fractionEnd t
  | '0' :: 'x' :: t | '0' :: 'X' :: t => marked .hexadecimal t
  | '0' :: 'o' :: t | '0' :: 'O' :: t => marked .octal t
  | '0' :: 'b' :: t | '0' :: 'B' :: t => marked .binary t
  | '0' :: t =>
    match zeroTail t with
    | .error f => .error f
    | .ok rest =>
      match rest with
      | c :: u =>
        if c.isDigit then (decimalTail u).bind (wholeEnd 1 true) else wholeEnd 1 false rest
      | [] => .ok (.real, [])
  | _ :: t => (decimalTail t).bind fun rest => wholeEnd (digitsBefore rest) false rest
  | [] => .ok (.real, [])

/-- Does a number begin here? -/
def startsNumber : Text → Bool
  | '.' :: c :: _ => c.isDigit
  | c :: _ => c.isDigit
  | [] => false

/-- What stands before the quotes that end a string, and what follows them. -/
def stringBody? (quotes : Text) (s : Text) : Option (Text × Text) :=
  match s with
  | [] => none
  | c :: t =>
    match after? quotes (c :: t) with
    | some rest => some ([], rest)
    | none =>
      if c = '\\' then
        match t with
        | [] => none
        | d :: t => (stringBody? quotes t).map fun (body, rest) => ('\\' :: d :: body, rest)
      else if c = '\n' ∧ quotes.length = 1 then none
      else (stringBody? quotes t).map fun (body, rest) => (c :: body, rest)

/-- Where a string that does not end stops: the number of lines that begin in it. -/
def linesOfOpen (quotes : Text) : Text → Nat
  | [] => 0
  | '\\' :: c :: s => (if c = '\n' ∧ s ≠ [] then 1 else 0) + linesOfOpen quotes s
  | c :: s =>
    if c = '\n' then if quotes.length = 1 ∨ s = [] then 0 else 1 + linesOfOpen quotes s
    else linesOfOpen quotes s

/-- Reads the string at the start of a text. -/
def readString (line : Nat) (s : Text) : Except LiteralFault (Text × Text) :=
  match s with
  | [] => .error (.openString line)
  | q :: t =>
    match after? [q, q] t with
    | some inner =>
      match stringBody? [q, q, q] inner with
      | some found => .ok found
      | none => .error (.openTriple (line + linesOfOpen [q, q, q] inner))
    | none =>
      match stringBody? [q] t with
      | some found => .ok found
      | none => .error (.openString (line + linesOfOpen [q] t))

/-- The letters that may stand before a string and belong to it. -/
def stringLetters : List String := ["b", "u", "r", "f", "br", "rb", "fr", "rf"]

/-- Signs of three characters. -/
def tripleSigns : List String := ["...", "**=", "//=", "<<=", ">>="]

/-- Signs of two characters. -/
def doubleSigns : List String :=
  ["!=", "%=", "&=", "**", "*=", "+=", "-=", "->", "/=", "//", ":=", "<<", "<=", "<>", "==", ">=",
    ">>", "@=", "^=", "|="]

/-- The sign at the start of a text. -/
def signOf (s : Text) : Text :=
  if tripleSigns.any (·.toList = s.take 3) then s.take 3
  else if doubleSigns.any (·.toList = s.take 2) then s.take 2
  else s.take 1

/-- The bracket that a closing one belongs to. -/
def opening? : Char → Option Char
  | ')' => some '('
  | ']' => some '['
  | '}' => some '{'
  | _ => none

/-- The first character of a word that cannot stand there. -/
def strangeChar? : Text → Option Char
  | [] => none
  | c :: s => if startsIdentifier c then s.find? (!continuesIdentifier ·) else some c

/-- How deep brackets may be nested. -/
def maxLevel : Nat := 200

/-- How far the cutting of a text has come. -/
structure Scan where
  line : Nat := 1
  /-- The open brackets and their lines, innermost first. -/
  brackets : List (Char × Nat) := []
  /-- The margins of the lines around, in columns of eight and of one to a tab,
  innermost first. -/
  margins : List (Nat × Nat) := [(0, 0)]
  /-- Is this the beginning of a line? -/
  fresh : Bool := true
deriving Repr

def Scan.token (scan : Scan) (lexeme : Lexeme) (last : Bool) : Token :=
  ⟨lexeme, scan.brackets.length, scan.line, last⟩

/-- The blank start of a line. -/
structure Margin where
  /-- Its width, with tabs filled up to every eighth column. -/
  wide : Nat := 0
  /-- Its width, with one column for a tab. -/
  narrow : Nat := 0
  /-- Its width where the line first goes on behind a backslash, if there is any. -/
  split : Nat := 0
  /-- How many times the line goes on behind a backslash. -/
  lines : Nat := 0
deriving Repr

/-- The columns of a margin. Of a line that goes on, those before the first backslash
count. -/
def Margin.columns (m : Margin) : Nat × Nat :=
  if m.split = 0 then (m.wide, m.narrow) else (m.split, m.split)

/-- The margin at the start of a text, and what follows it. -/
def Margin.read (m : Margin) : Text → Margin × Text
  | '\\' :: '\n' :: s =>
    if s = [] then (m, '\\' :: '\n' :: s)
    else
      let split := if m.split = 0 then m.wide else m.split
      Margin.read { m with split := split, lines := m.lines + 1 } s
  | c :: s =>
    if c = ' ' then Margin.read { m with wide := m.wide + 1, narrow := m.narrow + 1 } s
    else if c = '\t' then
      Margin.read { m with wide := (m.wide / 8 + 1) * 8, narrow := m.narrow + 1 } s
    else if c = '\x0C' then Margin.read { m with wide := 0, narrow := 0 } s
    else (m, c :: s)
  | [] => (m, [])

/-- Leaves the margins that are wider than a new one, with a token for each. -/
def leaveMargins (scan : Scan) (column : Nat) : List (Nat × Nat) → List Token × List (Nat × Nat)
  | [] => ([], [])
  | (outer, narrow) :: margins =>
    if column < outer then
      let (tokens, left) := leaveMargins scan column margins
      (scan.token .dedent false :: tokens, left)
    else ([], (outer, narrow) :: margins)

/-- The tokens for the margin of a line, and the margins after it; or the fault of
the margin. -/
def marginTokens (scan : Scan) (m : Margin) :
    Except LiteralFault (List Token × List (Nat × Nat)) :=
  let (column, narrow) := m.columns
  match scan.margins with
  | [] => .ok ([], [])
  | (outer, outerNarrow) :: _ =>
    if column = outer then
      if narrow = outerNarrow then .ok ([], scan.margins) else .error .mixedMargin
    else if outer < column then
      if narrow ≤ outerNarrow then .error .mixedMargin
      else .ok ([scan.token .indent false], (column, narrow) :: scan.margins)
    else
      let (tokens, left) := leaveMargins scan column scan.margins
      match left with
      | (there, thereNarrow) :: _ =>
        if column ≠ there then .error .unevenMargin
        else if narrow ≠ thereNarrow then .error .mixedMargin
        else .ok (tokens, left)
      | [] => .error .unevenMargin

/-- The tokens of a text and the brackets that are open after them. -/
structure Tokens where
  list : List Token
  brackets : List (Char × Nat)
  /-- The fault of what follows an indented line's beginning, which ends the tokens. -/
  late : Option LiteralFault := none
deriving Repr

def Tokens.cons (t : Token) (ts : Tokens) : Tokens := { ts with list := t :: ts.list }

/-- The last token, where a text ends. -/
def finish (scan : Scan) : Tokens :=
  let lexeme : Lexeme :=
    match scan.brackets with
    | [] => .finish
    | (opening, _) :: _ => .broken (.unclosed opening)
  { list := [scan.token lexeme true], brackets := scan.brackets }

/-- The last token, where following a text further is a fault. -/
def breakAt (scan : Scan) (f : LiteralFault) : Tokens :=
  { list := [scan.token (.broken f) true], brackets := scan.brackets }

/-- The last token, at a backslash with this text behind it that no line follows. -/
def breakAtBackslash (scan : Scan) (s : Text) : Tokens :=
  breakAt scan <|
    match s, scan.brackets with
    | '\n' :: _, [] => .unexpectedEnd
    | '\n' :: _, (opening, _) :: _ => .unclosed opening
    | _, _ => .strayBackslash

/-- The tokens of a text, in `n` steps at most. -/
def scanTokens : Nat → Scan → Text → Except LiteralFault Tokens
  | 0, scan, _ => .ok (finish scan)
  | n + 1, scan, s =>
    if scan.fresh then
      let (margin, rest) := Margin.read {} s
      let scan : Scan := { scan with line := scan.line + margin.lines }
      let inLine : Scan := { scan with fresh := false }
      match rest with
      | '\\' :: rest => .ok (breakAtBackslash scan rest)
      | '\n' :: rest => scanTokens n { scan with line := scan.line + 1 } rest
      | '#' :: rest =>
        match rest.dropWhile (· != '\n') with
        | _ :: rest => scanTokens n { scan with line := scan.line + 1 } rest
        | [] => .ok (finish scan)
      | rest =>
        if scan.brackets ≠ [] then scanTokens n inLine rest
        else
          match marginTokens scan margin with
          | .error f => .ok (breakAt scan f)
          | .ok (tokens, margins) =>
            match scanTokens n { inLine with margins := margins } rest with
            | .ok ts => .ok { ts with list := tokens ++ ts.list }
            | .error f =>
              if tokens = [] then .error f
              else .ok { list := tokens, brackets := [], late := some f }
    else
      match s with
      | [] => .ok (finish scan)
      | c :: t =>
        if c = ' ' ∨ c = '\t' ∨ c = '\x0C' then scanTokens n scan t
        else if c = '#' then scanTokens n scan (t.dropWhile (· != '\n'))
        else if c = '\n' then
          let next : Scan := { scan with line := scan.line + 1, fresh := true }
          if scan.brackets ≠ [] then scanTokens n next t
          else (scanTokens n next t).map (.cons (scan.token .lineEnd false))
        else if c = '\\' then
          match t with
          | '\n' :: d :: u => scanTokens n { scan with line := scan.line + 1 } (d :: u)
          | _ => .ok (breakAtBackslash scan t)
        else if isWordLike c ∧ !c.isDigit then
          let word := s.takeWhile isWordLike
          let rest := s.dropWhile isWordLike
          let quoted := rest.head? = some '\'' ∨ rest.head? = some '"'
          if quoted ∧ stringLetters.any (·.toList = word.map Char.toLower) then
            match readString scan.line rest with
            | .error f => .error f
            | .ok (body, after) =>
              let lexeme : Lexeme := .string (word.map Char.toLower) body
              (scanTokens n { scan with line := scan.line + body.count '\n' } after).map
                (.cons (scan.token lexeme (rest.length = 2)))
          else
            match strangeChar? word with
            | some c => .error (if isPrintable c then .strange c else .hidden c)
            | none => (scanTokens n scan rest).map (.cons (scan.token (.word word) rest.isEmpty))
        else if startsNumber s then
          match readNumber s with
          | .error f => .error f
          | .ok (number, rest) =>
            (scanTokens n scan rest).map (.cons (scan.token (.number number) rest.isEmpty))
        else if c = '\'' ∨ c = '"' then
          match readString scan.line s with
          | .error f => .error f
          | .ok (body, rest) =>
            (scanTokens n { scan with line := scan.line + body.count '\n' } rest).map
              (.cons (scan.token (.string [] body) (s.length = 2)))
        else if c = '(' ∨ c = '[' ∨ c = '{' then
          if maxLevel ≤ scan.brackets.length then .error .tooDeep
          else
            let inner : Scan := { scan with brackets := (c, scan.line) :: scan.brackets }
            (scanTokens n inner t).map (.cons (inner.token (.sign [c]) t.isEmpty))
        else
          match opening? c, scan.brackets with
          | some _, [] => .error (.unmatched c)
          | some opening, (found, line) :: outside =>
            if found = opening then
              let outer : Scan := { scan with brackets := outside }
              (scanTokens n outer t).map (.cons (outer.token (.sign [c]) t.isEmpty))
            else .error (.mismatched c found (if line = scan.line then none else some line))
          | none, _ =>
            if !isPrintable c then .error (.hidden c)
            else
              let sign := signOf s
              let rest := s.drop sign.length
              (scanTokens n scan rest).map (.cons (scan.token (.sign sign) rest.isEmpty))

/-- The tokens of a text. A line may also end in a carriage return. -/
def tokens (s : Text) : Except LiteralFault Tokens :=
  let s := s.unifyLineEnds
  scanTokens (2 * s.length + 2) {} s

end JsxTemplate.Console.Literal
