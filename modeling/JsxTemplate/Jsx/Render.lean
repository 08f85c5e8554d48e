import JsxTemplate.Jsx.Name
import JsxTemplate.Template.Control

/-!
# Rendering

A node renders as indented lines of JSX. Elements print their props and then
their children one unit deeper. A control prints its condition or its loop
around its child, in braces where it stands among the children of an element.
-/

namespace JsxTemplate.Jsx

open Binding

/-- What rendering depends on apart from the node. -/
structure Renderer where
  /-- One unit of indentation. -/
  unit : Text := "  "
  /-- The components that tags stand for. -/
  aliases : Table Text := []
  /-- The prop that an attribute is written as. -/
  spelling : Text → Text := propName

/-- The line of a text. -/
def textLine (indent value : Text) : Text := indent ++ resolveText value ++ "\n"

/-- What a control prints before and after its child. -/
def controlLines : Control → Text × Text
  | .conditional test => ("(" ++ unwrap test ++ ") && (\n", ")")
  | .loop array item => (unwrap array ++ ".map(" ++ unwrap item ++ " => (\n", "))")

/-- A control around its rendered child. A `direct` one is already in the place
of an expression and takes no braces. -/
def controlBlock (indent : Text) (direct : Bool) (e : Element) (child : Except RenderFault Text) :
    Except RenderFault Text := do
  let (before, after) := controlLines (← e.control)
  let child ← child
  if direct then return indent ++ before ++ child ++ indent ++ after ++ "\n"
  return indent ++ ['{', ' '] ++ before ++ child ++ indent ++ after ++ [' ', '}'] ++ "\n"

namespace Renderer

variable (r : Renderer)

/-- The name under which an element is written. -/
def tagName (name : Text) : Text := (r.aliases.get? name).getD name

/-- One prop of the node called `node`. -/
def prop (node attr : Text) (value : Option Text) : Except RenderFault Text :=
  let name := r.spelling attr
  if name = spreadMark then
    match resolveSpread? value with
    | some spread => .ok spread
    | none => .error (.malformed ⟨if node = [] then none else some node, .spread value⟩)
  else .ok (name ++ "=" ++ resolveProp value)

/-- The props of the node called `node`, each after a space. -/
def props (node : Text) : Attrs → Except RenderFault Text
  | [] => .ok []
  | (attr, value) :: attrs => do
    let first ← r.prop node attr value
    let others ← props node attrs
    return ' ' :: first ++ others

/-- An element around its rendered children. -/
def element (indent : Text) (e : Element) (children : Except RenderFault Text) :
    Except RenderFault Text := do
  let name := r.tagName e.name
  let props ← r.props e.name e.attrs
  if e.children.isEmpty then return indent ++ "<" ++ name ++ props ++ " />\n"
  let children ← children
  return indent ++ "<" ++ name ++ props ++ ">\n" ++ children ++ indent ++ "</" ++ name ++ ">\n"

mutual

/-- A node at an indentation. -/
def node (indent : Text) (direct : Bool) : Node → Except RenderFault Text
  | .text value _ => .ok (textLine indent value)
  | .element name attrs children line =>
    if name = controlName then
      controlBlock indent direct ⟨name, attrs, children, line⟩
        (nodes (r.unit ++ indent) true children)
    else r.element indent ⟨name, attrs, children, line⟩ (nodes (r.unit ++ indent) false children)
  | .stray _ => .error .stray

/-- Nodes one after the other. -/
def nodes (indent : Text) (direct : Bool) : List Node → Except RenderFault Text
  | [] => .ok []
  | n :: ns => do
    let first ← node indent direct n
    let others ← nodes indent direct ns
    return first ++ others

end

/-- A node rendered as an element with props and children, whatever its name. -/
def asElement (indent : Text) (e : Element) : Except RenderFault Text :=
  r.element indent e (r.nodes (r.unit ++ indent) false e.children)

/-- A node rendered as a control, whatever its name. -/
def asControl (indent : Text) (direct : Bool) (e : Element) : Except RenderFault Text :=
  controlBlock indent direct e (r.nodes (r.unit ++ indent) true e.children)

/-- The statement that returns a template's first node. The template's own tag
and its other nodes are not rendered. -/
def component (root : Element) : Except RenderFault Text := do
  match root.children with
  | [] => root.fault .noContent
  | first :: _ =>
    let body ← r.node (r.unit ++ r.unit) true first
    return r.unit ++ "return (\n" ++ body ++ r.unit ++ ");\n"

end Renderer

end JsxTemplate.Jsx
