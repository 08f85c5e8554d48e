import JsxTemplate.Console.Color
import JsxTemplate.Text.Blank
import JsxTemplate.Text.Letter
import JsxTemplate.Text.Numeral

/-!
# Styles

A style is written as words: attributes, a colour, a background after `on`, and
a target after `link`. Two texts that mean one style have one normal form, and
by it the end of a style finds its beginning. A text that is no style is its own
normal form, but for blanks around it and capitals in it.
-/

namespace JsxTemplate.Console

open Text

/-- The attributes in the order of the normal form, with a short spelling. -/
def attributeSpellings : List (String × Option String) :=
  [("bold", some "b"), ("dim", some "d"), ("italic", some "i"), ("underline", some "u"),
    ("blink", none), ("blink2", none), ("reverse", some "r"), ("conceal", some "c"),
    ("strike", some "s"), ("underline2", some "uu"), ("frame", none), ("encircle", none),
    ("overline", some "o")]

/-- The attribute that a word spells. -/
def attribute? (word : Text) : Option Text :=
  (attributeSpellings.find? fun (long, short) =>
    long.toList = word || short.any fun s => s.toList = word).map fun (long, _) => long.toList

/-- What a word for a colour amounts to. -/
inductive ColorWord where
  | color
  | none
  /-- A component of the colour is left out. -/
  | emptyComponent
deriving DecidableEq, Repr

/-- Looks at a colour given by its three components. -/
def componentsWord (inner : Text) : ColorWord :=
  if inner = [] ∨ !inner.all fun c => c = ',' || (decimal? c).isSome then .none
  else
    match inner.split ',' with
    | [red, green, blue] =>
      if [red, green, blue].any (·.isEmpty) then .emptyComponent
      else if [red, green, blue].all fun d => (natural? d).any (· ≤ 255) then .color
      else .none
    | _ => .none

/-- Looks at a word in small letters for the colour it names: by name, by six
hexadecimal digits, by number or by components. -/
def colorWord (word : Text) : ColorWord :=
  let between (start : Text) : Option Text :=
    (after? start word).bind fun s => if s.getLast? = some ')' then some s.dropLast else none
  if word = "default" ∨ colorNames.any (·.toList = word) then .color
  else
    match word, between "color(", between "rgb(" with
    | '#' :: digits, _, _ =>
      if digits.length = 6 ∧ digits.all (fun c => c.isDigit || ('a' ≤ c && c ≤ 'f')) then .color
      else .none
    | _, some digits, _ =>
      if digits ≠ [] ∧ digits.length ≤ 3 ∧ digits.all Char.isDigit ∧ numeral 10 digits ≤ 255
      then .color else .none
    | _, none, some inner => componentsWord inner
    | _, none, none => .none

/-- A style as its words have told it so far. -/
structure Style where
  attributes : List (Text × Bool) := []
  color : Option Text := none
  background : Option Text := none
  link : Option Text := none
deriving DecidableEq, Repr

/-- Why words are no style. -/
inductive StyleFault where
  | notStyle
  | emptyComponent
deriving DecidableEq, Repr

/-- Sets a colour to a word, if it is one. -/
def withColor (word : Text) (set : Text → Style) : Except StyleFault Style :=
  match colorWord (lower word) with
  | .color => .ok (set (lower word))
  | .none => .error .notStyle
  | .emptyComponent => .error .emptyComponent

/-- The style that words tell. -/
def styleOf (style : Style) : List Text → Except StyleFault Style
  | [] => .ok style
  | word :: words =>
    let small := lower word
    if small = "on" then
      match words with
      | [] => .error .notStyle
      | word :: words => do
        styleOf (← withColor word fun c => { style with background := some c }) words
    else if small = "not" then
      match words with
      | [] => .error .notStyle
      | word :: words =>
        match attribute? word with
        | none => .error .notStyle
        | some a => styleOf { style with attributes := (a, false) :: style.attributes } words
    else if small = "link" then
      match words with
      | [] => .error .notStyle
      | word :: words => styleOf { style with link := some word } words
    else
      match attribute? small with
      | some a => styleOf { style with attributes := (a, true) :: style.attributes } words
      | none => do styleOf (← withColor word fun c => { style with color := some c }) words

/-- The words of a style in the order of the normal form. -/
def Style.words (style : Style) : List Text :=
  let attributes := attributeSpellings.filterMap fun (long, _) =>
    (style.attributes.lookup long.toList).map fun set =>
      if set then long.toList else "not ".toList ++ long.toList
  let background := (style.background.map fun c => ["on".toList, c]).getD []
  let link := (style.link.map fun target => ["link".toList, target]).getD []
  attributes ++ style.color.toList ++ background ++ link

/-- The normal form of a style. Only a colour with a component left out has none. -/
def normalStyle? (s : Text) : Option Text :=
  match styleOf {} s.words with
  | .ok style =>
    match style.words with
    | [] => some "none"
    | words => some ([' '].intercalate words)
  | .error .notStyle => some (lower s.trim)
  | .error .emptyComponent => none

end JsxTemplate.Console
