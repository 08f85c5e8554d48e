import JsxTemplate.Markup.Event
import JsxTemplate.Template.Node

/-!
# From events to a tree

The tree of a template grows along its events. Opening tags push an element,
closing tags put the innermost one into its parent, and text collects until a
tag or a comment ends it. A closing tag has to name the innermost open element.
-/

namespace JsxTemplate

open Markup (Event Located)

/-- How the tags of a template fail to nest. -/
inductive NestingFault where
  /-- A closing tag where nothing is open. -/
  | unexpected (tag : Text) (line : Nat)
  /-- A closing tag other than that of the innermost element. -/
  | mismatched (expected : Text) (opened : Nat) (tag : Text) (line : Nat)
  /-- An element that nothing closes. -/
  | unclosed (name : Text) (line : Nat)
deriving DecidableEq, Repr

def NestingFault.line : NestingFault → Nat
  | .unexpected _ line | .mismatched _ _ _ line | .unclosed _ line => line

def NestingFault.message : NestingFault → Text
  | .unexpected tag _ => "Unexpected closing tag </" ++ tag ++ ">"
  | .mismatched expected opened tag _ =>
    "Expected </" ++ expected ++ "> (opened on line " ++ Text.ofNat opened ++ ") but found </" ++
      tag ++ ">"
  | .unclosed name _ => "Unclosed element <" ++ name ++ ">"

/-- A tree that is still growing. -/
structure Growth where
  /-- The open elements, innermost first, with their children so far. -/
  stack : List Element := []
  /-- The nodes outside every open element. -/
  placed : List Node := []
  /-- Text that no tag has ended yet, and the line on which it begins. -/
  pending : Option (Nat × Text) := none
deriving Repr

namespace Growth

/-- Adds a node to the innermost open element. -/
def place (g : Growth) (node : Node) : Growth :=
  match g.stack with
  | [] => { g with placed := g.placed ++ [node] }
  | e :: es => { g with stack := { e with children := e.children ++ [node] } :: es }

/-- Ends the pending text. Its runs of blanks collapse, and nothing is added
when nothing is left of it. -/
def flush (g : Growth) : Growth :=
  match g.pending with
  | none => g
  | some (line, text) =>
    let g := { g with pending := none }
    match text.collapse with
    | [] => g
    | value => g.place (.text value line)

/-- Adds characters to the pending text. -/
def addText (g : Growth) (line : Nat) (chunk : Text) : Growth :=
  match g.pending with
  | none => { g with pending := some (line, chunk) }
  | some (first, text) => { g with pending := some (first, text ++ chunk) }

/-- An element's attributes: the last value given to each, and an empty one for
an attribute that has none. -/
def attrsOf (attrs : Markup.Attrs) : Attrs :=
  Table.ofEntries (attrs.map fun (name, value) => (name, some (value.getD [])))

/-- The tree after one more event. -/
def handle (g : Growth) (here : Located) : Except NestingFault Growth :=
  match here.event with
  | .opening name attrs =>
    let g := g.flush
    if isVoid name then .ok (g.place (.element name (attrsOf attrs) [] here.line))
    else .ok { g with stack := ⟨name, attrsOf attrs, [], here.line⟩ :: g.stack }
  | .empty name attrs => .ok (g.flush.place (.element name (attrsOf attrs) [] here.line))
  | .closing tag =>
    let g := g.flush
    if isVoid tag then .ok g
    else
      match g.stack with
      | [] => .error (.unexpected tag here.line)
      | e :: es =>
        if e.name = tag then .ok ({ g with stack := es }.place e.toNode)
        else .error (.mismatched e.name e.line tag here.line)
  | .text chunk => .ok (g.addText here.line chunk)
  | .comment => .ok g.flush
  | .silent => .ok g

/-- The tree after a list of events. -/
def handleAll (g : Growth) : List Located → Except NestingFault Growth
  | [] => .ok g
  | e :: es =>
    match g.handle e with
    | .error f => .error f
    | .ok g => g.handleAll es

/-- The finished document, once every element is closed. -/
def finish (g : Growth) : Except NestingFault (List Node) :=
  match g.flush.stack with
  | [] => .ok g.flush.placed
  | e :: _ => .error (.unclosed e.name e.line)

end Growth

end JsxTemplate
