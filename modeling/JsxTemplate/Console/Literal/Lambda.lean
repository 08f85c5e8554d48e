import JsxTemplate.Console.Literal.Grammar

/-!
# Parameters in literals

The grammar of the parameters that an expression may bind. No literal binds any,
but a fault in them is told from others.
-/

namespace JsxTemplate.Console.Literal.Rules

open Parse

variable (g : Rules)

def lambda : Parse Node := do
  word "lambda"
  let _ ← attempt (g.read .parameters)
  sign ":"
  let _ ← g.read .expression
  return .lambda

/-- What ends a parameter: a comma, or the colon that ends them all. -/
def parameterEnd : Parse Unit := choice [sign ",", ahead (sign ":")]

def plainParameter : Parse Node := do
  let _ ← name
  parameterEnd
  return .items []

def defaultParameter : Parse Node := do
  let _ ← name
  let _ ← g.read .defaultValue
  parameterEnd
  return .items []

def anyParameter : Parse Node := do
  let _ ← name
  let _ ← attempt (g.read .defaultValue)
  parameterEnd
  return .items []

def defaultValue : Parse Node :=
  choice
    [(do sign "="; g.read .expression),
      ifStrict (do
        sign "="
        ahead (choice [sign ")", sign ","])
        fault .emptyDefault)]

/-- Parameters before a slash, none of them with a value. -/
def slashPlain : Parse Node := do
  let _ ← g.oneOrMore (g.read .plainParameter)
  sign "/"
  parameterEnd
  return .items []

/-- Parameters before a slash, the last ones with a value. -/
def slashDefault : Parse Node := do
  let _ ← g.zeroOrMore (g.read .plainParameter)
  let _ ← g.oneOrMore (g.read .defaultParameter)
  sign "/"
  parameterEnd
  return .items []

def starParameters : Parse Node :=
  choice
    [ifStrict (g.read .mistakenStar),
      (do
        sign "*"
        let _ ← g.read .plainParameter
        let _ ← g.zeroOrMore (g.read .anyParameter)
        let _ ← attempt (g.read .doubleStarParameter)
        return .items []),
      (do
        sign "*"
        sign ","
        let _ ← g.oneOrMore (g.read .anyParameter)
        let _ ← attempt (g.read .doubleStarParameter)
        return .items []),
      g.read .doubleStarParameter]

def doubleStarParameter : Parse Node :=
  choice
    [ifStrict (g.read .mistakenDoubleStar),
      (do sign "**"; g.read .plainParameter)]

def parameters : Parse Node :=
  let stars : Parse Node := do
    let _ ← attempt (g.read .starParameters)
    return .items []
  choice
    [ifStrict (g.read .mistakenParameters),
      (do
        let _ ← g.read .slashPlain
        let _ ← g.zeroOrMore (g.read .plainParameter)
        let _ ← g.zeroOrMore (g.read .defaultParameter)
        stars),
      (do
        let _ ← g.read .slashDefault
        let _ ← g.zeroOrMore (g.read .defaultParameter)
        stars),
      (do
        let _ ← g.oneOrMore (g.read .plainParameter)
        let _ ← g.zeroOrMore (g.read .defaultParameter)
        stars),
      (do
        let _ ← g.oneOrMore (g.read .defaultParameter)
        stars),
      g.read .starParameters]

def mistakenParameters : Parse Node :=
  let slashed := choice [g.read .slashPlain, g.read .slashDefault]
  choice
    [(do sign "/"; sign ","; fault .slashFirst),
      (do
        let _ ← slashed
        let _ ← g.zeroOrMore (g.read .anyParameter)
        sign "/"
        fault .slashTwice),
      (do
        let _ ← attempt (g.read .slashPlain)
        let _ ← g.zeroOrMore (g.read .plainParameter)
        let _ ← choice
          [g.read .slashDefault,
            (do return .items (← g.oneOrMore (g.read .defaultParameter)))]
        let _ ← g.read .plainParameter
        fault .noDefaultAfterDefault),
      (do
        let _ ← g.zeroOrMore (g.read .plainParameter)
        sign "("
        let _ ← g.listed (do let _ ← name; return .items [])
        let _ ← attempt (sign ",")
        sign ")"
        fault .parenthesizedParameters),
      (do
        let _ ← attempt slashed
        let _ ← g.zeroOrMore (g.read .anyParameter)
        sign "*"
        choice [sign ",", (do let _ ← g.read .plainParameter; return ())]
        let _ ← g.zeroOrMore (g.read .anyParameter)
        sign "/"
        fault .slashAfterStar),
      (do
        let _ ← g.oneOrMore (g.read .anyParameter)
        sign "/"
        sign "*"
        fault .noCommaAfterSlash)]

def mistakenStar : Parse Node :=
  let starred := choice [(do let _ ← g.read .plainParameter; return ()), sign ","]
  choice
    [(do
      sign "*"
      choice [sign ":", (do sign ","; choice [sign ":", sign "**"])]
      fault .nothingAfterStar),
      (do sign "*"; let _ ← name; sign "="; fault .starDefault),
      (do
        sign "*"
        starred
        let _ ← g.zeroOrMore (g.read .anyParameter)
        sign "*"
        starred
        fault .starTwice)]

def mistakenDoubleStar : Parse Node :=
  choice
    [(do sign "**"; let _ ← name; sign "="; fault .doubleStarDefault),
      (do sign "**"; let _ ← name; sign ","; let _ ← name; fault .afterDoubleStar),
      (do
        sign "**"
        let _ ← name
        sign ","
        choice [sign "*", sign "**", sign "/"]
        fault .afterDoubleStar)]

end JsxTemplate.Console.Literal.Rules
