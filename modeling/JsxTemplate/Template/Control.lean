import JsxTemplate.Binding.Resolve
import JsxTemplate.Template.Node
import JsxTemplate.Text.Quoted

/-!
# Control elements

A `controls` element renders its one child on a condition or once for each item
of an array. Which of the two it is, its attributes say.
-/

namespace JsxTemplate

/-- How a node breaks the rules of rendering. -/
inductive NodeFault where
  /-- A control has another number of children than one. -/
  | childCount (n : Nat)
  | blankAttribute (attr : Text)
  /-- A control is neither a condition nor a loop. -/
  | controlForm
  | spread (value : Option Text)
  | noContent
deriving DecidableEq, Repr

def NodeFault.message : NodeFault → Text
  | .childCount n => "control element must have exactly one child, got " ++ Text.ofNat n
  | .blankAttribute attr => "'" ++ attr ++ "' must not be empty"
  | .controlForm =>
    "control element needs either 'test' or both 'array' and 'item-name' attributes"
  | .spread value =>
    "spread attribute must be a single binding like '{{ props }}', got " ++
      (match value with
        | some given => given.quoted
        | none => "None")
  | .noContent => "template has no content"

/-- A fault and the name of the node it was found on. -/
structure Malformed where
  node : Option Text
  fault : NodeFault
deriving DecidableEq, Repr

/-- Why a tree has no rendering. -/
inductive RenderFault where
  | malformed (m : Malformed)
  /-- A bare value stands in the place of a node. -/
  | stray
  /-- An attribute of a control has no value at all. -/
  | noValue
deriving DecidableEq, Repr

/-- The name of control elements. -/
def controlName : Text := "controls"

/-- What a control does with its child. -/
inductive Control where
  | conditional (test : Text)
  | loop (array item : Text)
deriving DecidableEq, Repr

namespace Element

/-- A fault of this element. -/
def fault {α : Type} (e : Element) (f : NodeFault) : Except RenderFault α :=
  .error (.malformed ⟨some e.name, f⟩)

/-- The value of an attribute that must not be blank. -/
def required (e : Element) (attr : Text) (value : Option Text) : Except RenderFault Text :=
  match value with
  | none => .error .noValue
  | some value => if value.blank then e.fault (.blankAttribute attr) else .ok value

/-- The control that an element is. A condition wins over a loop. -/
def control (e : Element) : Except RenderFault Control := do
  if e.children.length ≠ 1 then e.fault (.childCount e.children.length)
  match e.attrs.get? "test", e.attrs.get? "array", e.attrs.get? "item-name" with
  | some test, _, _ => return .conditional (← e.required "test" test)
  | none, some array, some item =>
    return .loop (← e.required "array" array) (← e.required "item-name" item)
  | none, _, _ => e.fault .controlForm

end Element

end JsxTemplate
