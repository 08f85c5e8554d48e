import JsxTemplate.Console.Literal.Mistake

/-!
# Literals

A style tag may hand arguments to a handler. They have to be literals: numbers,
strings and constants, alone or in tuples and braces.
-/

namespace JsxTemplate.Console.Literal

open Text Parse

/-- How many rules are nested between two tokens, at most. -/
def rulesPerToken : Nat := 60

/-- The fault of a text whose reading ended with another one. A bracket of an earlier
line that is still open at the end is the cause of what is wrong on a later one. -/
def settle (ts : Tokens) (last : Option Token) (f : LiteralFault) : LiteralFault :=
  match ts.late, ts.brackets, last with
  | some late, _, _ => late
  | none, (opening, line) :: _, some last =>
    if line < last.line then .unclosed opening else f
  | _, _, _ => f

/-- The fault of a text that fits the rule for a mistake. Where it is known that the
text ends, this is its fault. -/
def mistake (ts : Tokens) (last : Option Token) (f : LiteralFault) : LiteralFault :=
  if last.any Token.last then f else settle ts last f

/-- The fault of tokens that fit no rule, with the last one that was looked at in
reading without and with the rules for mistakes. -/
def misfit (ts : Tokens) (first last : Option Token) : LiteralFault :=
  match first.map Token.lexeme with
  | some .indent => .indented
  | some .dedent => .unindented
  | _ => settle ts last .invalid

/-- Reads tokens: as a whole text, or as the start of one. -/
def parse (inner : Text → Option LiteralFault) (whole : Bool) (ts : Tokens) :
    Except LiteralFault Node :=
  let tokens := ts.list.toArray
  let rule := read inner tokens.size (rulesPerToken * (tokens.size + 1))
  let lexeme (l : Lexeme) : Parse Unit := token fun t => if t.lexeme = l then some () else none
  let start : Parse Node :=
    if whole then do
      let e ← rule .expressions
      let _ ← many (lexeme .lineEnd) tokens.size
      lexeme .finish
      return e
    else rule .starExpressions
  let last (p : Progress) := tokens[p.seen - 1]?
  match start.run { tokens := tokens } with
  | .ok (some node) _ => .ok node
  | .error f p => .error (mistake ts (last p) f)
  | .ok none p =>
    match start.run { p with next := 0, strict := true, kept := ∅ } with
    | .error f q => .error (mistake ts (last q) f)
    | .ok _ q => .error (misfit ts (last p) (last q))

/-- The fault of an expression in a string, with strings nested `n` deep at most. -/
def faultWithin? : Nat → Text → Option LiteralFault
  | 0, _ => none
  | n + 1, s =>
    match tokens s with
    | .error f => some f
    | .ok ts =>
      match parse (faultWithin? n) false ts with
      | .error f => some (.within f)
      | .ok _ => none

/-- What a literal stands for, as far as it matters where it may stand. -/
inductive Value where
  | real
  | imaginary
  | constant
  | tuple (items : List Value)
  | set
  | dict
deriving Repr, Inhabited

mutual

/-- The part of a value that cannot be compared with others. -/
def Value.unhashable? : Value → Option Text
  | .tuple items => unhashableAmong? items
  | .set => some "set".toList
  | .dict => some "dict".toList
  | _ => none

def unhashableAmong? : List Value → Option Text
  | [] => none
  | v :: vs => v.unhashable?.or (unhashableAmong? vs)

end

/-- Checks that a value can be compared with others. -/
def Value.checkHashable (v : Value) : Except LiteralFault Unit :=
  match v.unhashable? with
  | some label => .error (.unhashable label)
  | none => .ok ()

/-- A number with or without a sign. -/
def signedNumber? : Node → Option Value
  | .real | .signed .real => some .real
  | .imaginary | .signed .imaginary => some .imaginary
  | _ => none

mutual

/-- What an expression stands for if it is a literal. Of sums only those of a real
and an imaginary number are. -/
def Node.value : Node → Except LiteralFault Value
  | .constant _ => .ok .constant
  | .tuple items => return .tuple (← values items)
  | .set items => do
    checkMembers items
    return .set
  | .dict entries => do
    checkEntries entries
    return .dict
  | .call (.name ['s', 'e', 't']) true => .ok .set
  | .sum left right =>
    match signedNumber? left, right with
    | some .real, .imaginary => .ok .imaginary
    | _, _ => .error .notConstant
  | n =>
    match signedNumber? n with
    | some v => .ok v
    | none => .error .notConstant

def values : List Node → Except LiteralFault (List Value)
  | [] => .ok []
  | n :: ns => return (← n.value) :: (← values ns)

/-- Checks the members of a set one by one. -/
def checkMembers : List Node → Except LiteralFault Unit
  | [] => .ok ()
  | n :: ns => do
    (← n.value).checkHashable
    checkMembers ns

/-- Checks the entries in braces one by one. -/
def checkEntries : List Node → Except LiteralFault Unit
  | [] => .ok ()
  | .entry key value :: ns => do
    let v ← key.value
    let _ ← value.value
    v.checkHashable
    checkEntries ns
  | _ :: _ => .error .unpacking

end

/-- What is wrong with a text as a literal. -/
def fault? (s : Text) : Option LiteralFault :=
  if '\x00' ∈ s then some .zero
  else
    match tokens (s.dropWhile fun c => c == ' ' || c == '\t') with
    | .error f => some f
    | .ok ts =>
      match parse (faultWithin? s.length) true ts with
      | .error f => some f
      | .ok node =>
        match node.value with
        | .error f => some f
        | .ok _ => none

end JsxTemplate.Console.Literal
