import JsxTemplate.Console.Literal.Quoted
import JsxTemplate.Console.Literal.Token
import Std.Data.HashMap

/-!
# The grammar of literals

A literal is read by the grammar of expressions, of which it is a small part.
The rules are tried in order and the first that fits counts. When nothing fits,
the rules are tried once more together with rules for common mistakes, so that a
fault has a cause.
-/

namespace JsxTemplate.Console.Literal

open Text

/-- What an expression is. -/
inductive Node where
  | name (w : Text)
  | real
  | imaginary
  /-- A constant other than a number; `label` tells which. -/
  | constant (label : Text)
  /-- A string with expressions in it. -/
  | template
  | tuple (items : List Node)
  | set (items : List Node)
  | dict (entries : List Node)
  | entry (key value : Node)
  /-- The entries of another expression. -/
  | unpack
  | signed (operand : Node)
  | sum (left right : Node)
  | operation
  /-- A comparison, which may be one of membership. -/
  | comparison (membership : Bool) (left : Node)
  | conditional
  | starred (inner : Node)
  | attribute
  | call (callee : Node) (bare : Bool)
  | lambda
  | generator
  | setComprehension
  | dictComprehension
  | awaited
  | yielded
  | assignment
  /-- The arguments of a call: how many stand by position, and whether entries of
  another expression are among them. -/
  | arguments (positional : Nat) (unpacks : Bool)
  /-- An argument by name. -/
  | keyword
  /-- Several of what a rule asks for. -/
  | items (l : List Node)
deriving Repr, Inhabited

/-- What an expression is called where it cannot stand. -/
def Node.label : Node → Text
  | .name _ => "name"
  | .real | .imaginary => "literal"
  | .constant label => label
  | .template => "f-string expression"
  | .tuple _ => "tuple"
  | .set _ => "set display"
  | .dict _ => "dict literal"
  | .signed _ | .sum .. | .operation => "expression"
  | .comparison .. => "comparison"
  | .conditional => "conditional expression"
  | .starred _ => "starred"
  | .attribute => "attribute"
  | .call .. => "function call"
  | .lambda => "lambda"
  | .generator => "generator expression"
  | .setComprehension => "set comprehension"
  | .dictComprehension => "dict comprehension"
  | .awaited => "await expression"
  | .yielded => "yield expression"
  | .assignment => "named expression"
  | .entry .. | .unpack | .arguments .. | .keyword | .items _ => []

/-- The items of a node that holds several. -/
def Node.list : Node → List Node
  | .items l => l
  | n => [n]

/-- The rules of the grammar. -/
inductive Rule where
  | expressions
  | expression
  | expressionOnly
  | disjunction
  | conjunction
  | inversion
  | comparison
  | either
  | exclusive
  | both
  | shift
  | sum
  | term
  | factor
  | power
  | awaitPrimary
  | primary
  | atom
  | strings
  | tuple
  | group
  | generator
  | set
  | setComprehension
  | dict
  | dictComprehension
  | entries
  | entry
  | keyValue
  | yieldExpression
  | starExpressions
  | starExpression
  | starNamedExpressions
  | starNamedExpression
  | assignment
  | namedExpression
  | starredExpression
  | clauses
  | clause
  | targets
  | target
  | targetAtom
  | innerTarget
  | targetTuple
  | targetPrimary
  | arguments
  | positionalArguments
  | keywordArguments
  | keywordOrStarred
  | keywordOrUnpacked
  | lambda
  | parameters
  | slashPlain
  | slashDefault
  | starParameters
  | doubleStarParameter
  | plainParameter
  | defaultParameter
  | anyParameter
  | defaultValue
  | mistakenExpression
  | mistakenCall
  | mistakenName
  | mistakenGroup
  | mistakenComprehension
  | mistakenDictComprehension
  | mistakenEntries
  | mistakenEntry
  | mistakenArguments
  | mistakenKeyword
  | mistakenTarget
  | mistakenParameters
  | mistakenStar
  | mistakenDoubleStar
deriving DecidableEq, Hashable, Repr

/-- The rules whose result at a place is kept. It does not depend on whether
mistakes were looked for when it was found. -/
def Rule.isKept : Rule → Bool
  | .expression | .disjunction | .conjunction | .inversion | .either | .exclusive | .both | .shift
  | .sum | .term | .factor | .awaitPrimary | .primary | .strings | .starExpression | .target
  | .targetAtom | .targetPrimary | .arguments | .mistakenName => true
  | _ => false

/-- How far reading has come. -/
structure Progress where
  tokens : Array Token
  /-- The token to be read next. -/
  next : Nat := 0
  /-- The number of tokens that have been looked at. -/
  seen : Nat := 0
  /-- Are mistakes looked for? -/
  strict : Bool := false
  kept : Std.HashMap (Rule × Nat) (Option (Node × Nat)) := ∅

/-- A reader of tokens: it fits or not, or it finds a fault. -/
abbrev Parse := OptionT (EStateM LiteralFault Progress)

namespace Parse

/-- Ends reading with a fault. -/
def fault {α : Type} (f : LiteralFault) : Parse α := OptionT.mk (throw f)

/-- Reads the next token if it is as asked for. -/
def token {α : Type} (want : Token → Option α) : Parse α := do
  let p ← get
  match p.tokens[p.next]? with
  | none => failure
  | some t =>
    set { p with seen := max p.seen (p.next + 1) }
    match t.lexeme, want t with
    | .broken f, _ => fault f
    | _, none => failure
    | _, some a =>
      modify fun p => { p with next := p.next + 1 }
      return a

/-- Tries a reader; when it does not fit, nothing has been read. -/
def attempt {α : Type} (r : Parse α) : Parse (Option α) := OptionT.mk do
  let start := (← get).next
  match ← r.run with
  | some a => return some (some a)
  | none =>
    modify fun p => { p with next := start }
    return some none

/-- The first of some readers that fits. -/
def choice {α : Type} : List (Parse α) → Parse α
  | [] => failure
  | r :: rs => do
    match ← attempt r with
    | some a => return a
    | none => choice rs

/-- Fits if the reader does, and reads nothing. -/
def ahead {α : Type} (r : Parse α) : Parse Unit := do
  let start := (← get).next
  let _ ← r
  modify fun p => { p with next := start }

/-- Fits if the reader does not. -/
def absent {α : Type} (r : Parse α) : Parse Unit := do
  let start := (← get).next
  match ← attempt r with
  | some _ =>
    modify fun p => { p with next := start }
    failure
  | none => return ()

/-- Reads as often as a reader fits, up to `n` times. -/
def many {α : Type} (r : Parse α) : Nat → Parse (List α)
  | 0 => return []
  | n + 1 => do
    match ← attempt r with
    | none => return []
    | some a => return a :: (← many r n)

/-- Reads as often as a reader fits, but at least once. -/
def some1 {α : Type} (r : Parse α) (n : Nat) : Parse (List α) := do
  let a ← r
  return a :: (← many r n)

end Parse

open Parse

/-- Words that are not free for names. -/
def reserved : List String :=
  ["False", "None", "True", "and", "as", "assert", "async", "await", "break", "class", "continue",
    "def", "del", "elif", "else", "except", "finally", "for", "from", "global", "if", "import",
    "in", "is", "lambda", "nonlocal", "not", "or", "pass", "raise", "return", "try", "while", "with",
    "yield"]

/-- Names that are words of the grammar in some places. -/
def softWords : List String := ["_", "case", "match"]

/-- May a name be meant as a word of the grammar? It may also be the beginning of one. -/
def isSoft (w : Text) : Bool := softWords.any (w.isPrefixOf ·.toList)

/-- Reads a sign. -/
def sign (s : String) : Parse Unit :=
  token fun t => if t.lexeme = .sign s.toList then some () else none

/-- Reads a reserved word. -/
def word (w : String) : Parse Unit :=
  token fun t => if t.lexeme = .word w.toList then some () else none

/-- Reads a name. -/
def name : Parse Text :=
  token fun t =>
    match t.lexeme with
    | .word w => if reserved.any (·.toList = w) then none else some w
    | _ => none

/-- Reads a string. -/
def string : Parse (Text × Text) :=
  token fun t =>
    match t.lexeme with
    | .string letters body => some (letters, body)
    | _ => none

/-- The alternatives that are only tried when mistakes are looked for. -/
def ifStrict (r : Parse Node) : Parse Node := do
  if (← get).strict then r else failure

/-- Keeps the result of a rule. -/
def keep (rule : Rule) (r : Parse Node) : Parse Node := do
  if !rule.isKept then r
  else
    let start := (← get).next
    match (← get).kept[(rule, start)]? with
    | some (some (node, next)) =>
      modify fun p => { p with next := next }
      return node
    | some none => failure
    | none =>
      let found ← attempt r
      let next := (← get).next
      modify fun p => { p with kept := p.kept.insert (rule, start) (found.map fun n => (n, next)) }
      match found with
      | some node => return node
      | none => failure

/-- What the rules are made from: how to read by another rule, how to check an
expression in a string, and how often to repeat at most. -/
structure Rules where
  read : Rule → Parse Node
  inner : Text → Option LiteralFault
  bound : Nat

namespace Rules

variable (g : Rules)

/-- Reads as often as a reader fits. -/
def zeroOrMore (r : Parse Node) : Parse (List Node) := many r g.bound

/-- Reads as often as a reader fits, but at least once. -/
def oneOrMore (r : Parse Node) : Parse (List Node) := some1 r g.bound

/-- Reads one or more, with commas between them. -/
def listed (r : Parse Node) : Parse (List Node) := do
  let a ← r
  return a :: (← g.zeroOrMore do
    sign ","
    r)

/-- Expressions that one operator after the other joins. -/
def chain (rule : Rule) (signs : List String) : Parse Node := do
  let first ← g.read rule
  let others ← g.zeroOrMore do
    choice (signs.map sign)
    g.read rule
  return if others.isEmpty then first else .operation

/-- Sums keep their operands. -/
def sums : Parse Node := do
  let first ← g.read .term
  let others ← g.zeroOrMore do
    choice [sign "+", sign "-"]
    g.read .term
  return others.foldl .sum first

/-- Expressions between which a word stands. -/
def joined (rule : Rule) (w : String) : Parse Node := do
  let first ← g.read rule
  let others ← g.zeroOrMore do
    word w
    g.read rule
  return if others.isEmpty then first else .operation

/-- Reads what compares, and tells whether it asks for membership. -/
def comparator : Parse Bool :=
  choice
    [(do sign "=="; return false), (do sign "!="; return false), (do sign "<="; return false),
      (do sign "<"; return false), (do sign ">="; return false), (do sign ">"; return false),
      (do word "not"; word "in"; return false), (do word "in"; return true),
      (do word "is"; word "not"; return false), (do word "is"; return false)]

def comparison : Parse Node := do
  let left ← g.read .either
  let pairs ← many (do
    let membership ← comparator
    let _ ← g.read .either
    return membership) g.bound
  match pairs with
  | [] => return left
  | membership :: _ => return .comparison membership left

/-- An expression with a condition. -/
def conditional : Parse Node := do
  let _ ← g.read .disjunction
  word "if"
  let _ ← g.read .disjunction
  word "else"
  let _ ← g.read .expression
  return .conditional

def expression : Parse Node :=
  choice [ifStrict (g.read .mistakenExpression), ifStrict (g.read .mistakenCall), g.conditional,
    g.read .disjunction, g.read .lambda]

/-- An expression without a look for mistakes. -/
def expressionOnly : Parse Node := do
  let strict := (← get).strict
  modify fun p => { p with strict := false }
  let found ← attempt (choice [g.conditional, g.read .disjunction, g.read .lambda])
  modify fun p => { p with strict := strict }
  match found with
  | some node => return node
  | none => failure

/-- One expression, or several with commas after them, by a rule. -/
def commaTuple (rule : Rule) : Parse Node :=
  choice
    [(do
      let first ← g.read rule
      let others ← g.oneOrMore do
        sign ","
        g.read rule
      let _ ← attempt (sign ",")
      return .tuple (first :: others)),
      (do
        let only ← g.read rule
        sign ","
        return .tuple [only]),
      g.read rule]

def factor : Parse Node :=
  choice
    [(do sign "+"; return .signed (← g.read .factor)),
      (do sign "-"; return .signed (← g.read .factor)),
      (do sign "~"; let _ ← g.read .factor; return .operation),
      g.read .power]

def power : Parse Node :=
  choice
    [(do
      let _ ← g.read .awaitPrimary
      sign "**"
      let _ ← g.read .factor
      return .operation),
      g.read .awaitPrimary]

def awaitPrimary : Parse Node :=
  choice
    [(do word "await"; let _ ← g.read .primary; return .awaited),
      g.read .primary]

/-- What may follow an expression and belongs to it. -/
def trailer (callee : Node) : Parse Node :=
  choice
    [(do sign "."; let _ ← name; return .attribute),
      (do let _ ← g.read .generator; return .call callee false),
      (do
        sign "("
        let arguments ← attempt (g.read .arguments)
        sign ")"
        return .call callee arguments.isNone)]

/-- An expression with all that follows it. -/
def trailers (callee : Node) : Nat → Parse Node
  | 0 => return callee
  | n + 1 => do
    match ← attempt (g.trailer callee) with
    | some node => trailers node n
    | none => return callee

def number : Parse Node := do
  match ← token fun t => match t.lexeme with
    | .number n => some n
    | _ => none with
  | .real => return .real
  | .imaginary => return .imaginary
  | .long digits => fault (.longNumber digits)

def strings : Parse Node := do
  match checkStrings g.inner none (← some1 string g.bound) with
  | .error f => fault f
  | .ok .template => return .template
  | .ok _ => return .constant "literal"

def atom : Parse Node :=
  choice
    [(do return .name (← name)),
      (do word "True"; return .constant "True"),
      (do word "False"; return .constant "False"),
      (do word "None"; return .constant "None"),
      (do ahead string; g.read .strings),
      number,
      (do ahead (sign "("); choice [g.read .tuple, g.read .group, g.read .generator]),
      (do
        ahead (sign "\x7b")
        choice [g.read .dict, g.read .set, g.read .dictComprehension, g.read .setComprehension]),
      (do sign "..."; return .constant "ellipsis")]

def tuple : Parse Node := do
  sign "("
  let items ← attempt do
    let first ← g.read .starNamedExpression
    sign ","
    match ← attempt (g.read .starNamedExpressions) with
    | some others => return first :: others.list
    | none => return [first]
  sign ")"
  return .tuple (items.getD [])

def group : Parse Node :=
  choice
    [(do
      sign "("
      let inner ← choice [g.read .yieldExpression, g.read .namedExpression]
      sign ")"
      return inner),
      ifStrict (g.read .mistakenGroup)]

/-- An expression that is not the target of an assignment, or an assignment. -/
def element : Parse Node :=
  choice
    [g.read .assignment,
      (do
        let e ← g.read .expression
        absent (sign ":=")
        return e)]

def generator : Parse Node :=
  choice
    [(do
      sign "("
      let _ ← g.element
      let _ ← g.read .clauses
      sign ")"
      return .generator),
      ifStrict (g.read .mistakenComprehension)]

def set : Parse Node := do
  sign "\x7b"
  let items ← g.read .starNamedExpressions
  sign "\x7d"
  return .set items.list

def setComprehension : Parse Node :=
  choice
    [(do
      sign "\x7b"
      let _ ← g.read .namedExpression
      let _ ← g.read .clauses
      sign "\x7d"
      return .setComprehension),
      ifStrict (g.read .mistakenComprehension)]

/-- The rule for mistaken entries belongs to this one, also while no mistakes are
looked for. -/
def dict : Parse Node :=
  choice
    [(do
      sign "\x7b"
      let entries ← attempt (g.read .entries)
      sign "\x7d"
      return .dict ((entries.map Node.list).getD [])),
      (do
        sign "\x7b"
        let _ ← g.read .mistakenEntries
        sign "\x7d"
        return .dict [])]

def entries : Parse Node := do
  let l ← g.listed (g.read .entry)
  let _ ← attempt (sign ",")
  return .items l

def entry : Parse Node :=
  choice
    [(do sign "**"; let _ ← g.read .either; return .unpack),
      g.read .keyValue]

def keyValue : Parse Node := do
  let key ← g.read .expression
  sign ":"
  return .entry key (← g.read .expression)

def dictComprehension : Parse Node :=
  choice
    [(do
      sign "\x7b"
      let _ ← g.read .keyValue
      let _ ← g.read .clauses
      sign "\x7d"
      return .dictComprehension),
      ifStrict (g.read .mistakenDictComprehension)]

def yieldExpression : Parse Node :=
  choice
    [(do word "yield"; word "from"; let _ ← g.read .expression; return .yielded),
      (do word "yield"; let _ ← attempt (g.read .starExpressions); return .yielded)]

def starExpression : Parse Node :=
  choice
    [(do sign "*"; return .starred (← g.read .either)),
      g.read .expression]

def starNamedExpressions : Parse Node := do
  let l ← g.listed (g.read .starNamedExpression)
  let _ ← attempt (sign ",")
  return .items l

def starNamedExpression : Parse Node :=
  choice
    [(do sign "*"; return .starred (← g.read .either)),
      g.read .namedExpression]

def assignment : Parse Node := do
  let _ ← name
  sign ":="
  let _ ← g.read .expression
  return .assignment

def namedExpression : Parse Node :=
  choice
    [g.read .assignment,
      ifStrict (g.read .mistakenName),
      (do
        let e ← g.read .expression
        absent (sign ":=")
        return e)]

def starredExpression : Parse Node := do
  sign "*"
  return .starred (← g.read .expression)

/-- A clause of a comprehension. Once its `in` is read, it is no other mistake. -/
def clause : Parse Node := do
  let rest : Parse Node := do
    let _ ← g.read .disjunction
    let _ ← g.zeroOrMore do
      word "if"
      g.read .disjunction
    return .items []
  let head (later : Parse Unit) : Parse Unit := do
    later
    let _ ← g.read .targets
    word "in"
  match ← attempt (head do word "async"; word "for") with
  | some _ => rest
  | none =>
    match ← attempt (head (word "for")) with
    | some _ => rest
    | none => ifStrict (g.read .mistakenTarget)

def targets : Parse Node :=
  choice
    [(do
      let t ← g.read .target
      absent (sign ",")
      return t),
      (do
        let first ← g.read .target
        let others ← g.zeroOrMore do
          sign ","
          g.read .target
        let _ ← attempt (sign ",")
        return .tuple (first :: others))]

def target : Parse Node :=
  choice
    [(do
      sign "*"
      absent (sign "*")
      return .starred (← g.read .target)),
      g.read .targetAtom]

/-- What shows that a target goes on. -/
def goesOn : Parse Unit := choice [sign "(", sign "[", sign "."]

def targetAtom : Parse Node :=
  choice
    [(do
      let _ ← g.read .targetPrimary
      sign "."
      let _ ← name
      absent goesOn
      return .attribute),
      g.read .innerTarget]

def innerTarget : Parse Node :=
  choice
    [(do return .name (← name)),
      (do
        sign "("
        let t ← g.read .targetAtom
        sign ")"
        return t),
      (do
        sign "("
        let _ ← attempt (g.read .targetTuple)
        sign ")"
        return .tuple [])]

def targetTuple : Parse Node :=
  choice
    [(do
      let first ← g.read .target
      let others ← g.oneOrMore do
        sign ","
        g.read .target
      let _ ← attempt (sign ",")
      return .items (first :: others)),
      (do
        let only ← g.read .target
        sign ","
        return .items [only])]

/-- The part of a target before its last name. -/
def targetTrailers (callee : Node) : Nat → Parse Node
  | 0 => return callee
  | n + 1 => do
    let step : Parse Node := do
      let node ← g.trailer callee
      ahead goesOn
      return node
    match ← attempt step with
    | some node => targetTrailers node n
    | none => return callee

def targetPrimary : Parse Node := do
  let first ← g.read .atom
  ahead goesOn
  g.targetTrailers first g.bound

def arguments : Parse Node :=
  choice
    [(do
      let a ← g.read .positionalArguments
      let _ ← attempt (sign ",")
      ahead (sign ")")
      return a),
      ifStrict (g.read .mistakenArguments)]

/-- Counts the arguments of a call. -/
def argumentsOf (positional keywords : List Node) : Node :=
  let starred := keywords.filter fun
    | .starred _ => true
    | _ => false
  .arguments (positional.length + starred.length) (keywords.any fun
    | .unpack => true
    | _ => false)

def positionalArguments : Parse Node :=
  choice
    [(do
      let l ← g.listed (choice
        [g.read .starredExpression,
          (do
            let e ← g.element
            absent (sign "=")
            return e)])
      let keywords ← attempt do
        sign ","
        g.read .keywordArguments
      return argumentsOf l ((keywords.map Node.list).getD [])),
      (do
        let keywords ← g.read .keywordArguments
        return argumentsOf [] keywords.list)]

def keywordArguments : Parse Node :=
  choice
    [(do
      let first ← g.listed (g.read .keywordOrStarred)
      sign ","
      let second ← g.listed (g.read .keywordOrUnpacked)
      return .items (first ++ second)),
      (do return .items (← g.listed (g.read .keywordOrStarred))),
      (do return .items (← g.listed (g.read .keywordOrUnpacked)))]

/-- An argument by name. -/
def keyword : Parse Node := do
  let _ ← name
  sign "="
  let _ ← g.read .expression
  return .keyword

def keywordOrStarred : Parse Node :=
  choice [ifStrict (g.read .mistakenKeyword), g.keyword, g.read .starredExpression]

def keywordOrUnpacked : Parse Node :=
  choice
    [ifStrict (g.read .mistakenKeyword), g.keyword,
      (do sign "**"; let _ ← g.read .expression; return .unpack)]

end Rules

end JsxTemplate.Console.Literal
