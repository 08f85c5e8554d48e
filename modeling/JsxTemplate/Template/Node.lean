import JsxTemplate.Table
import JsxTemplate.Text.Blank

/-!
# Template trees

A template is a tree of texts and elements. Nodes remember the line on which
they begin, and attributes keep the order in which they are written.
-/

namespace JsxTemplate

/-- The attributes of an element. An attribute without a value has none. -/
abbrev Attrs := Table (Option Text)

/-- A node of a template. -/
inductive Node where
  /-- Text, possibly with bindings in it. -/
  | text (value : Text) (line : Nat)
  | element (name : Text) (attrs : Attrs) (children : List Node) (line : Nat)
  /-- A bare value in the place of a node. It can be carried along in a tree,
  but it has no rendering. -/
  | stray (value : Text)
deriving Repr, Inhabited

/-- An element by itself. -/
structure Element where
  name : Text
  attrs : Attrs
  children : List Node
  line : Nat
deriving Repr

/-- The element that a node is. -/
def Node.element? : Node → Option Element
  | .element name attrs children line => some ⟨name, attrs, children, line⟩
  | _ => none

/-- An element as a node. -/
def Element.toNode (e : Element) : Node := .element e.name e.attrs e.children e.line

/-- The elements that never have content or a closing tag. -/
def voidNames : List String :=
  ["area", "base", "br", "col", "embed", "hr", "img", "input", "link", "meta", "param", "source",
    "track", "wbr"]

/-- Is an element of this name always empty? -/
def isVoid (name : Text) : Bool := voidNames.any (·.toList = name)

end JsxTemplate
