import JsxTemplate.Text.Numeral

/-!
# Faults of literals

Everything that can be wrong with a literal, by cause.
-/

namespace JsxTemplate.Console

/-- The ways to write a number. -/
inductive NumberForm where
  | decimal
  | hexadecimal
  | octal
  | binary
  | imaginary
deriving DecidableEq, Repr

def NumberForm.label : NumberForm → Text
  | .decimal => "decimal"
  | .hexadecimal => "hexadecimal"
  | .octal => "octal"
  | .binary => "binary"
  | .imaginary => "imaginary"

/-- Why an escape in a string stands for no character. -/
inductive EscapeFault where
  /-- Digits are missing; `form` shows how many there have to be. -/
  | truncated (form : Text)
  /-- The number is no character's. -/
  | noCharacter
  /-- A name is not in braces. -/
  | noName
  /-- No character has the name. -/
  | unknownName
deriving DecidableEq, Repr

def EscapeFault.message : EscapeFault → Text
  | .truncated form => "truncated \\" ++ form ++ " escape"
  | .noCharacter => "illegal Unicode character"
  | .noName => "malformed \\N character escape"
  | .unknownName => "unknown Unicode character name"

/-- What is wrong with a string in which expressions stand. -/
inductive TemplateStringFault where
  | lone (brace : Char)
  | tooNested
  | backslash
  | comment
  | tooDeep
  | unmatched (bracket : Char)
  | mismatched (closing opening : Char)
  | openString
  | notClosed
  | nothingBefore (mark : Char)
  | empty
  | conversion
deriving DecidableEq, Repr

def TemplateStringFault.message : TemplateStringFault → Text
  | .lone brace => "f-string: single '" ++ [brace] ++ "' is not allowed"
  | .tooNested => "f-string: expressions nested too deeply"
  | .backslash => "f-string expression part cannot include a backslash"
  | .comment => "f-string expression part cannot include '#'"
  | .tooDeep => "f-string: too many nested parenthesis"
  | .unmatched bracket => "f-string: unmatched '" ++ [bracket] ++ "'"
  | .mismatched closing opening =>
    "f-string: closing parenthesis '" ++ [closing] ++ "' does not match opening parenthesis '" ++
      [opening] ++ "'"
  | .openString => "f-string: unterminated string"
  | .notClosed => "f-string: expecting '\x7d'"
  | .nothingBefore mark => "f-string: expression required before '" ++ [mark] ++ "'"
  | .empty => "f-string: empty expression not allowed"
  | .conversion =>
    "f-string: invalid conversion character: expected 's', 'r', or 'a'"

/-- Why a text is no literal. -/
inductive LiteralFault where
  /-- A character that nothing begins with. -/
  | strange (c : Char)
  /-- A character that does not show. -/
  | hidden (c : Char)
  /-- A string does not end; `line` is where that shows. -/
  | openString (line : Nat)
  /-- A string in three quotes does not end. -/
  | openTriple (line : Nat)
  | badNumber (form : NumberForm)
  | badDigit (digit : Char) (form : NumberForm)
  | leadingZeros
  /-- A closing bracket where none is open. -/
  | unmatched (closing : Char)
  /-- A closing bracket of another kind than the open one, which stands on `line` if
  that is an earlier one. -/
  | mismatched (closing opening : Char) (line : Option Nat)
  | tooDeep
  /-- An opening bracket that nothing closes. -/
  | unclosed (opening : Char)
  | strayBackslash
  | unexpectedEnd
  | unevenMargin
  | mixedMargin
  | indented
  | unindented
  /-- A whole number has too many digits. -/
  | longNumber (digits : Nat)
  /-- Bytes hold a character beyond Basic Latin. -/
  | wideBytes
  | mixedStrings
  /-- An escape in a string, from its byte `first` to `last`. -/
  | escape (first last : Nat) (f : EscapeFault)
  /-- An escape in bytes. -/
  | byteEscape (first : Nat)
  | templateString (f : TemplateStringFault)
  /-- An expression within a string is at fault. -/
  | within (f : LiteralFault)
  /-- Two expressions stand side by side in brackets. -/
  | missingComma
  | missingElse
  /-- A word is used that is now called with parentheses. -/
  | missingParentheses (word : Text)
  | equalsSign
  | equalsSignAfter (label : Text)
  | equalsSignInArgument
  | notAssignable (label : Text)
  | notNamed (label : Text)
  | starredGroup
  | doubleStarredGroup
  | starredComprehension
  | bareTarget
  | doubleStarredComprehension
  | starredValue
  | noValue
  | noColon
  | starAfterUnpacking
  | bareGenerator
  | positionalAfterUnpacking
  | positionalAfterKeyword
  | slashFirst
  | slashTwice
  | slashAfterStar
  | noCommaAfterSlash
  | starTwice
  | nothingAfterStar
  | starDefault
  | doubleStarDefault
  | afterDoubleStar
  | noDefaultAfterDefault
  | emptyDefault
  | parenthesizedParameters
  | invalid
  /-- It is an expression, but one that has to be worked out. -/
  | notConstant
  /-- A brace takes over what another one holds. -/
  | unpacking
  /-- What stands in a place where equal ones are looked for cannot be compared. -/
  | unhashable (label : Text)
  /-- The character zero. -/
  | zero
deriving DecidableEq, Repr

/-- The number of a character in four capital hexadecimal digits or more. -/
def codePoint (c : Char) : Text := "U+" ++ (Text.hex 4 c.toNat).map Char.toUpper

def LiteralFault.message : LiteralFault → Text
  | .strange c => "invalid character '" ++ [c] ++ "' (" ++ codePoint c ++ ")"
  | .hidden c => "invalid non-printable character " ++ codePoint c
  | .openString line =>
    "unterminated string literal (detected at line " ++ Text.ofNat line ++ ")"
  | .openTriple line =>
    "unterminated triple-quoted string literal (detected at line " ++ Text.ofNat line ++ ")"
  | .badNumber form => "invalid " ++ form.label ++ " literal"
  | .badDigit digit form => "invalid digit '" ++ [digit] ++ "' in " ++ form.label ++ " literal"
  | .leadingZeros =>
    "leading zeros in decimal integer literals are not permitted; " ++
      "use an 0o prefix for octal integers"
  | .unmatched closing => "unmatched '" ++ [closing] ++ "'"
  | .mismatched closing opening line =>
    "closing parenthesis '" ++ [closing] ++ "' does not match opening parenthesis '" ++
      [opening] ++ "'" ++
      match line with
      | some line => " on line ".toList ++ Text.ofNat line
      | none => []
  | .tooDeep => "too many nested parentheses"
  | .unclosed opening => "'" ++ [opening] ++ "' was never closed"
  | .strayBackslash => "unexpected character after line continuation character"
  | .unexpectedEnd => "unexpected EOF while parsing"
  | .unevenMargin => "unindent does not match any outer indentation level"
  | .mixedMargin => "inconsistent use of tabs and spaces in indentation"
  | .indented => "unexpected indent"
  | .unindented => "unexpected unindent"
  | .longNumber digits =>
    "Exceeds the limit (" ++ Text.ofNat Text.maxDigits ++
      " digits) for integer string conversion: value has " ++ Text.ofNat digits ++
      " digits; use sys.set_int_max_str_digits() to increase the limit" ++
      " - Consider hexadecimal for huge integer literals to avoid decimal conversion limits."
  | .wideBytes => "bytes can only contain ASCII literal characters"
  | .mixedStrings => "cannot mix bytes and nonbytes literals"
  | .escape first last f =>
    "(unicode error) 'unicodeescape' codec can't decode " ++
      (if first = last then "byte 0x5c in position ".toList ++ Text.ofNat first
        else "bytes in position ".toList ++ Text.ofNat first ++ "-" ++ Text.ofNat last) ++
      ": " ++ f.message
  | .byteEscape first => "(value error) invalid \\x escape at position " ++ Text.ofNat first
  | .templateString f => f.message
  | .within f => "f-string: " ++ f.message
  | .missingComma => "invalid syntax. Perhaps you forgot a comma?"
  | .missingElse => "expected 'else' after 'if' expression"
  | .missingParentheses word =>
    "Missing parentheses in call to '" ++ word ++ "'. Did you mean " ++ word ++ "(...)?"
  | .equalsSign => "invalid syntax. Maybe you meant '==' or ':=' instead of '='?"
  | .equalsSignAfter label =>
    "cannot assign to " ++ label ++ " here. Maybe you meant '==' instead of '='?"
  | .equalsSignInArgument =>
    "expression cannot contain assignment, perhaps you meant \"==\"?"
  | .notAssignable label => "cannot assign to " ++ label
  | .notNamed label => "cannot use assignment expressions with " ++ label
  | .starredGroup => "cannot use starred expression here"
  | .doubleStarredGroup => "cannot use double starred expression here"
  | .starredComprehension => "iterable unpacking cannot be used in comprehension"
  | .bareTarget => "did you forget parentheses around the comprehension target?"
  | .doubleStarredComprehension => "dict unpacking cannot be used in dict comprehension"
  | .starredValue => "cannot use a starred expression in a dictionary value"
  | .noValue => "expression expected after dictionary key and ':'"
  | .noColon => "':' expected after dictionary key"
  | .starAfterUnpacking =>
    "iterable argument unpacking follows keyword argument unpacking"
  | .bareGenerator => "Generator expression must be parenthesized"
  | .positionalAfterUnpacking =>
    "positional argument follows keyword argument unpacking"
  | .positionalAfterKeyword => "positional argument follows keyword argument"
  | .slashFirst => "at least one argument must precede /"
  | .slashTwice => "/ may appear only once"
  | .slashAfterStar => "/ must be ahead of *"
  | .noCommaAfterSlash => "expected comma between / and *"
  | .starTwice => "* argument may appear only once"
  | .nothingAfterStar => "named arguments must follow bare *"
  | .starDefault => "var-positional argument cannot have default value"
  | .doubleStarDefault => "var-keyword argument cannot have default value"
  | .afterDoubleStar => "arguments cannot follow var-keyword argument"
  | .noDefaultAfterDefault => "non-default argument follows default argument"
  | .emptyDefault => "expected default value expression"
  | .parenthesizedParameters => "Lambda expression parameters cannot be parenthesized"
  | .invalid => "invalid syntax"
  | .notConstant => "malformed node or string on line 1"
  | .unpacking => "malformed node or string: None"
  | .unhashable label => "unhashable type: '" ++ label ++ "'"
  | .zero => "source code string cannot contain null bytes"

/-- Is a fault one of what the text says, and not of how it is written? -/
def LiteralFault.isOfMeaning : LiteralFault → Bool
  | .notConstant | .unpacking | .unhashable _ | .zero => true
  | _ => false

end JsxTemplate.Console
