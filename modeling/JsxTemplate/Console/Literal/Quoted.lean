import JsxTemplate.Console.Literal.Fault

/-!
# Strings in literals

What may stand between the quotes of a string: escapes that stand for
characters, and in some strings expressions in braces.
-/

namespace JsxTemplate.Console.Literal

open Text

/-- The number of bytes that a character takes where escapes are read: beyond Basic
Latin a character is written as an escape itself. -/
def escapedWidth (c : Char) : Nat := if c.toNat < 0x80 then 1 else 10

/-- Checks an escape by a number of `count` digits, which begin in `s`; `start` is
the place of its backslash. -/
def numberEscape (form : Text) (start count : Nat) (s : Text) : Except LiteralFault Unit :=
  let digits := (s.take count).takeWhile isHexDigit
  let last := start + 1 + digits.length
  if digits.length < count then .error (.escape start last (.truncated form))
  else if 0x10FFFF < numeral 16 digits then .error (.escape start last .noCharacter)
  else .ok ()

/-- Is a text formed like the name of a character? Names have words of Latin letters,
digits and hyphens, and are more than a letter. -/
def isFormedName (s : Text) : Bool :=
  1 < s.length && (s.split ' ').all fun w =>
    !w.isEmpty && w.all fun c => c.isAlphanum || c == '-'

/-- Checks an escape by a name, which begins in `s`; `start` is the place of its
backslash. -/
def nameEscape (start : Nat) (s : Text) : Except LiteralFault Unit :=
  match s with
  | '{' :: t =>
    let name := t.takeWhile (· != '}')
    let width := name.foldl (fun width c => width + escapedWidth c) 0
    if name.length = t.length then .error (.escape start (start + 2 + width) .noName)
    else if name = [] then .error (.escape start (start + 2) .noName)
    else if isFormedName name then .ok ()
    else .error (.escape start (start + 3 + width) .unknownName)
  | _ => .error (.escape start (start + 1) .noName)

/-- Checks the escapes of a string from `position` on. The characters of an escape
that is in order are passed one by one, since none of them is a backslash. -/
def checkEscapes (position : Nat) : Text → Except LiteralFault Unit
  | [] => .ok ()
  | '\\' :: c :: s => do
    if c = 'x' then numberEscape "xXX" position 2 s
    else if c = 'u' then numberEscape "uXXXX" position 4 s
    else if c = 'U' then numberEscape "UXXXXXXXX" position 8 s
    else if c = 'N' then nameEscape position s
    checkEscapes (position + (if c.toNat < 0x80 then 2 else 16)) s
  | c :: s => checkEscapes (position + escapedWidth c) s

/-- Checks the escapes of bytes. -/
def checkByteEscapes (position : Nat) : Text → Except LiteralFault Unit
  | [] => .ok ()
  | '\\' :: 'x' :: c :: d :: s =>
    if isHexDigit c ∧ isHexDigit d then checkByteEscapes (position + 4) s
    else .error (.byteEscape position)
  | '\\' :: c :: s =>
    if c = 'x' then .error (.byteEscape position) else checkByteEscapes (position + 2) s
  | _ :: s => checkByteEscapes (position + 1) s

/-- The text before the next expression of a string, how it goes on, and whether it
goes on with text after a doubled brace. `nested` texts have no doubled braces. -/
def plainPart (raw nested : Bool) : Text → Except LiteralFault (Text × Text × Bool)
  | [] => .ok ([], [], false)
  | '\\' :: c :: s => do
    if raw ∨ c = '{' ∨ c = '}' then
      let (part, rest, more) ← plainPart raw nested (c :: s)
      return ('\\' :: part, rest, more)
    else if c = 'N' ∧ s.head? = some '{' then
      let (part, rest, more) ← plainName raw nested s
      return ('\\' :: c :: part, rest, more)
    else
      let (part, rest, more) ← plainPart raw nested s
      return ('\\' :: c :: part, rest, more)
  | c :: s => do
    if c = '{' ∨ c = '}' then
      if nested then return ([], c :: s, false)
      else if s.head? = some c then return ([c], s.tail, true)
      else if c = '}' then .error (.templateString (.lone c))
      else return ([], c :: s, false)
    else
      let (part, rest, more) ← plainPart raw nested s
      return (c :: part, rest, more)
where
  /-- The same, from inside the braces of a character's name. -/
  plainName (raw nested : Bool) : Text → Except LiteralFault (Text × Text × Bool)
    | [] => .ok ([], [], false)
    | c :: s => do
      let (part, rest, more) ← if c = '}' then plainPart raw nested s else plainName raw nested s
      return (c :: part, rest, more)

/-- Where the scan of an expression in a string is: the quotes of a string in it, if
it is in one, and the open brackets, innermost first. -/
structure ExpressionScan where
  quotes : Text := []
  brackets : List Char := []

/-- Splits an expression in a string from what follows it: the mark that ends it,
which is not within brackets or quotes. -/
def expressionPart (scan : ExpressionScan) : Text → Except TemplateStringFault (Text × Text)
  | [] =>
    if scan.quotes ≠ [] then .error .openString
    else
      match scan.brackets with
      | bracket :: _ => .error (.unmatched bracket)
      | [] => .error .notClosed
  | c :: s => do
    let go (scan : ExpressionScan) : Except TemplateStringFault (Text × Text) := do
      let (part, rest) ← expressionPart scan s
      return (c :: part, rest)
    let triple (scan : ExpressionScan) : Except TemplateStringFault (Text × Text) :=
      match s with
      | _ :: _ :: t => do
        let (part, rest) ← expressionPart scan t
        return (c :: c :: c :: part, rest)
      | _ => .error .openString
    if c = '\\' then .error .backslash
    else if scan.quotes ≠ [] then
      if scan.quotes = [c] then go { scan with quotes := [] }
      else if scan.quotes = [c, c, c] ∧ s.take 2 = [c, c] then triple { scan with quotes := [] }
      else go scan
    else if c = '\'' ∨ c = '"' then
      if s.take 2 = [c, c] then triple { scan with quotes := [c, c, c] }
      else go { scan with quotes := [c] }
    else if c = '(' ∨ c = '[' ∨ c = '{' then
      if 200 ≤ scan.brackets.length then .error .tooDeep
      else go { scan with brackets := c :: scan.brackets }
    else if c = '#' then .error .comment
    else if scan.brackets = [] ∧ (c = '!' ∨ c = ':' ∨ c = '}' ∨ c = '=' ∨ c = '<' ∨ c = '>') then
      match s with
      | '=' :: t =>
        if c = ':' ∨ c = '}' then return ([], c :: s)
        else
          let (part, rest) ← expressionPart scan t
          return (c :: '=' :: part, rest)
      | _ => if c = '<' ∨ c = '>' then go scan else return ([], c :: s)
    else
      let opening : Option Char :=
        match c with
        | ')' => some '('
        | ']' => some '['
        | '}' => some '{'
        | _ => none
      match opening, scan.brackets with
      | none, _ => go scan
      | some _, [] => .error (.unmatched c)
      | some opening, found :: outside =>
        if found = opening then go { scan with brackets := outside }
        else .error (.mismatched c found)

/-- A blank between the parts of an expression. -/
def isGap (c : Char) : Bool := c == ' ' || c == '\t' || c == '\n' || c == '\x0C'

/-- Checks the expression that a string holds. `mark` follows it. -/
def checkExpression (inner : Text → Option LiteralFault) (expression : Text) (mark : Char) :
    Except LiteralFault Unit :=
  if expression.all isGap then
    if mark = '!' ∨ mark = ':' ∨ mark = '=' then .error (.templateString (.nothingBefore mark))
    else .error (.templateString .empty)
  else
    match inner ('(' :: expression ++ ")") with
    | some f => .error f
    | none => .ok ()

/-- Skips the conversion mark after an expression. -/
def afterConversion (s : Text) : Except LiteralFault Text :=
  match s with
  | '!' :: c :: s =>
    if c = 's' ∨ c = 'r' ∨ c = 'a' then .ok s else .error (.templateString .conversion)
  | '!' :: [] => .error (.templateString .notClosed)
  | s => .ok s

/-- Checks a string that holds expressions, in `n` steps at most, and gives what is
left where a nested one ends. -/
def checkTemplate (inner : Text → Option LiteralFault) (raw : Bool) :
    Nat → (level : Nat) → Text → Except LiteralFault Text
  | 0, _, s => .ok s
  | n + 1, level, s => do
    let (part, rest, more) ← plainPart raw (level != 0) s
    unless raw do checkEscapes 0 part
    if more then checkTemplate inner raw n level rest
    else
      match rest with
      | '{' :: s =>
        if 2 ≤ level then .error (.templateString .tooNested)
        else
          let (expression, rest) ← (expressionPart {} s).mapError .templateString
          checkExpression inner expression (rest.headD '}')
          let rest := match rest with
            | '=' :: rest => rest.dropWhile fun c => isGap c || c == '\r' || c == '\x0B'
            | rest => rest
          if rest = [] then .error (.templateString .notClosed)
          let rest ← afterConversion rest
          let rest ← match rest with
            | ':' :: rest =>
              if rest = [] then .error (.templateString .notClosed)
              else checkTemplate inner raw n (level + 1) rest
            | rest => .ok rest
          match rest with
          | '}' :: rest => checkTemplate inner raw n level rest
          | _ => .error (.templateString .notClosed)
      | rest =>
        if level ≠ 0 ∧ rest.head? ≠ some '}' then .error (.templateString .notClosed)
        else return rest

/-- What strings that stand side by side make. -/
inductive StringKind where
  | text
  | bytes
  /-- A text with expressions in it. -/
  | template
deriving DecidableEq, Repr

/-- Checks one string without the expressions in it, by the letters before it and what
is between its quotes. -/
def checkString (letters body : Text) : Except LiteralFault StringKind := do
  let raw := 'r' ∈ letters
  if 'f' ∈ letters then return .template
  else if 'b' ∈ letters then
    if body.any fun c => 0x80 ≤ c.toNat then .error .wideBytes
    unless raw do checkByteEscapes 0 body
    return .bytes
  else
    unless raw do checkEscapes 0 body
    return .text

/-- Checks strings that stand side by side. -/
def checkStrings (inner : Text → Option LiteralFault) (sofar : Option StringKind) :
    List (Text × Text) → Except LiteralFault StringKind
  | [] => .ok (sofar.getD .text)
  | (letters, body) :: strings => do
    let kind ← checkString letters body
    if sofar.any fun before => (before == .bytes) != (kind == .bytes) then .error .mixedStrings
    if kind = .template then
      let _ ← checkTemplate inner ('r' ∈ letters) (body.length + 1) 0 body
    checkStrings inner (some (if sofar = some .template then .template else kind)) strings

end JsxTemplate.Console.Literal
