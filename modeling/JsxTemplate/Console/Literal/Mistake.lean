import JsxTemplate.Console.Literal.Lambda

/-!
# Mistakes in literals

The rules for common mistakes. Each fits a form that no expression has, and then
tells what is wrong with it.
-/

namespace JsxTemplate.Console.Literal

open Parse

/-- Words that used to be commands. -/
def formerCommands : List String := ["print", "exec"]

def isFormerCommand (w : Text) : Bool := formerCommands.any (·.toList = w)

mutual

/-- The first part of an expression that cannot be the target of a loop. -/
def invalidTarget? : Node → Option Node
  | .tuple items => invalidTargetAmong? items
  | .starred inner => invalidTarget? inner
  | .comparison membership left => if membership then invalidTarget? left else none
  | .name _ | .attribute => none
  | n => some n

def invalidTargetAmong? : List Node → Option Node
  | [] => none
  | n :: ns => (invalidTarget? n).or (invalidTargetAmong? ns)

end

namespace Rules

variable (g : Rules)

/-- Two expressions side by side, or a condition that does not say what else. In a
text without brackets the first is no mistake of its own, nor is the second then. -/
def mistakenExpression : Parse Node := do
  let sideBySide ← attempt do
    absent (choice
      [(do let _ ← name; let _ ← string; return ()),
        token fun t =>
          match t.lexeme with
          | .word w => if isSoft w then some () else none
          | _ => none])
    let first ← g.read .disjunction
    let _ ← g.read .expressionOnly
    let p ← get
    return (first, (p.tokens[p.next - 1]?.map Token.level).getD 0)
  match sideBySide with
  | some (first, level) =>
    let former : Bool := match first with
      | .name w => isFormerCommand w
      | _ => false
    if former || level == 0 then failure else fault .missingComma
  | none =>
    let _ ← g.read .disjunction
    word "if"
    let _ ← g.read .disjunction
    absent (choice [word "else", sign ":"])
    fault .missingElse

def mistakenCall : Parse Node := do
  let w ← name
  absent (sign "(")
  let _ ← g.read .starExpressions
  if isFormerCommand w then fault (.missingParentheses w) else failure

def mistakenName : Parse Node :=
  let noMoreSigns := absent (choice [sign "=", sign ":="])
  choice
    [(do
      let e ← g.read .expression
      sign ":="
      let _ ← g.read .expression
      fault (.notNamed e.label)),
      (do
        let _ ← name
        sign "="
        let _ ← g.read .either
        noMoreSigns
        fault .equalsSign),
      (do
        let constant (w : String) : Parse Node := do
          word w
          return .constant w.toList
        absent (choice
          [g.read .tuple, g.read .generator, constant "True", constant "None", constant "False"])
        let e ← g.read .either
        sign "="
        let _ ← g.read .either
        noMoreSigns
        fault (.equalsSignAfter e.label))]

def mistakenGroup : Parse Node :=
  choice
    [(do
      sign "("
      let _ ← g.read .starredExpression
      sign ")"
      fault .starredGroup),
      (do
        sign "("
        sign "**"
        let _ ← g.read .expression
        sign ")"
        fault .doubleStarredGroup)]

def mistakenComprehension : Parse Node :=
  choice
    [(do
      choice [sign "[", sign "(", sign "\x7b"]
      let _ ← g.read .starredExpression
      let _ ← g.read .clauses
      fault .starredComprehension),
      (do
        choice [sign "[", sign "\x7b"]
        let _ ← g.read .starNamedExpression
        sign ","
        let _ ← g.read .starNamedExpressions
        let _ ← g.read .clauses
        fault .bareTarget),
      (do
        choice [sign "[", sign "\x7b"]
        let _ ← g.read .starNamedExpression
        sign ","
        let _ ← g.read .clauses
        fault .bareTarget)]

def mistakenDictComprehension : Parse Node := do
  sign "\x7b"
  sign "**"
  let _ ← g.read .either
  let _ ← g.read .clauses
  sign "\x7d"
  fault .doubleStarredComprehension

/-- A key with a colon but without a value that can stand there. -/
def mistakenValue : List (Parse Node) :=
  [(do
    let _ ← g.read .expression
    sign ":"
    sign "*"
    let _ ← g.read .either
    fault .starredValue),
    (do
      let _ ← g.read .expression
      sign ":"
      ahead (choice [sign "\x7d", sign ","])
      fault .noValue)]

def mistakenEntries : Parse Node :=
  choice
    ((do
      let _ ← g.listed (g.read .entry)
      sign ","
      g.read .mistakenEntry) :: g.mistakenValue)

def mistakenEntry : Parse Node :=
  choice
    ((do
      let _ ← g.read .expression
      absent (sign ":")
      fault .noColon) :: g.mistakenValue)

def mistakenArguments : Parse Node := do
  let generator : Parse Node := do
    let _ ← g.read .expression
    g.read .clauses
  let first ← attempt (choice
    [(do
      let _ ← g.read .positionalArguments
      sign ","
      sign "*"
      fault .starAfterUnpacking),
      (do
        let _ ← generator
        sign ","
        let _ ← attempt (choice [g.read .positionalArguments, generator])
        fault .bareGenerator),
      (do
        let _ ← name
        sign "="
        let _ ← generator
        fault .equalsSign),
      (do
        let a ← g.read .positionalArguments
        let _ ← g.read .clauses
        match a with
        | .arguments positional _ => if 1 < positional then fault .bareGenerator else return a
        | _ => return a)])
  if first.isSome then failure
  choice
    [(do
      let _ ← g.read .positionalArguments
      sign ","
      let _ ← generator
      fault .bareGenerator),
      (do
        let a ← g.read .positionalArguments
        sign ","
        let _ ← g.read .positionalArguments
        match a with
        | .arguments _ true => fault .positionalAfterUnpacking
        | _ => fault .positionalAfterKeyword)]

def mistakenKeyword : Parse Node :=
  let constant (w : String) : Parse Node := do
    word w
    sign "="
    fault (.notAssignable w)
  choice
    [constant "True", constant "False", constant "None",
      (do
        let _ ← name
        sign "="
        let _ ← g.read .expression
        let _ ← g.read .clauses
        fault .equalsSign),
      (do
        absent (do let _ ← name; sign "=")
        let _ ← g.read .expression
        sign "="
        fault .equalsSignInArgument)]

def mistakenTarget : Parse Node := do
  let _ ← attempt (word "async")
  word "for"
  match invalidTarget? (← g.read .starExpressions) with
  | some n => fault (.notAssignable n.label)
  | none => failure

/-- Reads by a rule. -/
def apply : Rule → Parse Node
  | .expressions => g.commaTuple .expression
  | .expression => g.expression
  | .expressionOnly => g.expressionOnly
  | .disjunction => g.joined .conjunction "or"
  | .conjunction => g.joined .inversion "and"
  | .inversion =>
    choice
      [(do word "not"; let _ ← g.read .inversion; return .operation),
        g.read .comparison]
  | .comparison => g.comparison
  | .either => g.chain .exclusive ["|"]
  | .exclusive => g.chain .both ["^"]
  | .both => g.chain .shift ["&"]
  | .shift => g.chain .sum ["<<", ">>"]
  | .sum => g.sums
  | .term => g.chain .factor ["*", "/", "//", "%", "@"]
  | .factor => g.factor
  | .power => g.power
  | .awaitPrimary => g.awaitPrimary
  | .primary => do g.trailers (← g.read .atom) g.bound
  | .atom => g.atom
  | .strings => g.strings
  | .tuple => g.tuple
  | .group => g.group
  | .generator => g.generator
  | .set => g.set
  | .setComprehension => g.setComprehension
  | .dict => g.dict
  | .dictComprehension => g.dictComprehension
  | .entries => g.entries
  | .entry => g.entry
  | .keyValue => g.keyValue
  | .yieldExpression => g.yieldExpression
  | .starExpressions => g.commaTuple .starExpression
  | .starExpression => g.starExpression
  | .starNamedExpressions => g.starNamedExpressions
  | .starNamedExpression => g.starNamedExpression
  | .assignment => g.assignment
  | .namedExpression => g.namedExpression
  | .starredExpression => g.starredExpression
  | .clauses => do return .items (← g.oneOrMore (g.read .clause))
  | .clause => g.clause
  | .targets => g.targets
  | .target => g.target
  | .targetAtom => g.targetAtom
  | .innerTarget => g.innerTarget
  | .targetTuple => g.targetTuple
  | .targetPrimary => g.targetPrimary
  | .arguments => g.arguments
  | .positionalArguments => g.positionalArguments
  | .keywordArguments => g.keywordArguments
  | .keywordOrStarred => g.keywordOrStarred
  | .keywordOrUnpacked => g.keywordOrUnpacked
  | .lambda => g.lambda
  | .parameters => g.parameters
  | .slashPlain => g.slashPlain
  | .slashDefault => g.slashDefault
  | .starParameters => g.starParameters
  | .doubleStarParameter => g.doubleStarParameter
  | .plainParameter => plainParameter
  | .defaultParameter => g.defaultParameter
  | .anyParameter => g.anyParameter
  | .defaultValue => g.defaultValue
  | .mistakenExpression => g.mistakenExpression
  | .mistakenCall => g.mistakenCall
  | .mistakenName => g.mistakenName
  | .mistakenGroup => g.mistakenGroup
  | .mistakenComprehension => g.mistakenComprehension
  | .mistakenDictComprehension => g.mistakenDictComprehension
  | .mistakenEntries => g.mistakenEntries
  | .mistakenEntry => g.mistakenEntry
  | .mistakenArguments => g.mistakenArguments
  | .mistakenKeyword => g.mistakenKeyword
  | .mistakenTarget => g.mistakenTarget
  | .mistakenParameters => g.mistakenParameters
  | .mistakenStar => g.mistakenStar
  | .mistakenDoubleStar => mistakenDoubleStar

end Rules

/-- Reads by a rule, with rules nested `n` deep at most. -/
def read (inner : Text → Option LiteralFault) (bound : Nat) : Nat → Rule → Parse Node
  | 0, _ => failure
  | n + 1, rule => keep rule (Rules.apply ⟨read inner bound n, inner, bound⟩ rule)

end JsxTemplate.Console.Literal
