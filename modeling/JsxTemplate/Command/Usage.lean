import JsxTemplate.Text.Quoted

/-!
# Misuse

What can be wrong with the arguments of a command, and how it is answered.
-/

namespace JsxTemplate.Command

/-- Why arguments cannot be understood. -/
inductive UsageFault where
  | noSuchCommand (name : Text) (near : List Text)
  | noSuchOption (spelling : Text) (near : List Text)
  | needsValue (spelling : Text)
  | takesNoValue (spelling : Text)
  | missingCommand
  | missingOperand (operand : Text)
  | extraOperands (operands : List Text)
  /-- A value is refused; `place` is the option or operand it was given for. -/
  | badValue (place : Option Text) (reason : Text)
deriving DecidableEq, Repr

/-- Asks whether one of some words was meant. -/
def suggestion (near : List Text) : Text :=
  match near.map Text.quoted with
  | [] => []
  | [word] => " Did you mean " ++ word ++ "?"
  | words => " (Did you mean one of: " ++ [',', ' '].intercalate words ++ "?)"

def UsageFault.message : UsageFault → Text
  | .noSuchCommand name near => "No such command " ++ name.quoted ++ "." ++ suggestion near
  | .noSuchOption spelling near => "No such option " ++ spelling.quoted ++ "." ++ suggestion near
  | .needsValue spelling => "Option " ++ spelling.quoted ++ " requires an argument."
  | .takesNoValue spelling => "Option " ++ spelling.quoted ++ " does not take a value."
  | .missingCommand => "Missing command."
  | .missingOperand operand => "Missing argument '" ++ operand ++ "'."
  | .extraOperands operands =>
    (if operands.length = 1 then "Got unexpected extra argument (".toList
      else "Got unexpected extra arguments (".toList) ++
      [' '].intercalate operands ++ ")"
  | .badValue none reason => "Invalid value: " ++ reason
  | .badValue (some place) reason => "Invalid value for " ++ place ++ ": " ++ reason

end JsxTemplate.Command
