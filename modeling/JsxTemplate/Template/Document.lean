import JsxTemplate.Jsx.Module
import JsxTemplate.Jsx.Name
import JsxTemplate.Markup.Reader
import JsxTemplate.Notice

/-!
# Template files

A template file holds one `template` element and, before or after it, links to
the components that it uses. Whatever else stands beside them is passed over.
-/

namespace JsxTemplate

/-- A template file that has been read. -/
structure Template where
  root : Element
  imports : List ComponentImport
  file : Text
deriving Repr

/-- The components that tags stand for. -/
def Template.aliases (t : Template) : Table Text :=
  Table.ofEntries (t.imports.map fun i => (i.tag, i.identifier))

/-- The nodes of a text, once its tags nest. -/
def documentNodes (file content : Text) : Except Failure (List Node) :=
  let (pieces, fault) := Markup.read content
  let failed (f : NestingFault) : Except Failure (List Node) :=
    .error (.template (.unreadable (.nesting f) (some file) (some f.line)))
  match ({} : Growth).handleAll (Markup.locate 1 pieces), fault with
  | .error f, _ => failed f
  | .ok _, some f => .error (.markup f)
  | .ok grown, none =>
    match grown.finish with
    | .ok nodes => .ok nodes
    | .error f => failed f

/-- The value of an attribute, empty if it has none. -/
def Element.attr (e : Element) (name : Text) : Text := ((e.attrs.get? name).getD none).getD []

/-- The component that a link imports. Its tag is the link's name, else the
name of the file it comes from. -/
def Element.componentImport (e : Element) : Except TemplateFault ComponentImport :=
  let source := (e.attr "href").trim
  if source = [] then .error .importSource
  else
    let called := if e.attr "name" = [] then (Path.parse source).stem else e.attr "name"
    let tag := Text.lower called.trim
    let identifier := Jsx.pascalCase tag
    if Jsx.isIdentifier identifier then .ok ⟨tag, identifier, source⟩ else .error (.importName tag)

/-- What has been found in a template file so far. -/
structure Findings where
  root : Option Element := none
  imports : List ComponentImport := []
  notices : List Notice := []
deriving Repr

/-- Adds what one element of the file says. -/
def Findings.add (file : Text) (found : Findings) (e : Element) :
    Except TemplateFault Findings :=
  if e.name = "template" then
    match found.root with
    | none => .ok { found with root := some e }
    | some _ => .ok { found with notices := found.notices ++ [.extraTemplate file e.line] }
  else if e.name = "link" ∧ e.attr "rel" = "import" then
    match e.componentImport with
    | .ok i => .ok { found with imports := found.imports ++ [i] }
    | .error f => .error f
  else .ok found

/-- The template among the nodes of a file, with the notices on the way. -/
def gather (file : Text) (found : Findings) : List Node → List Notice × Except Failure Template
  | [] =>
    let blame := if file = [] then none else some file
    match found.root with
    | none => (found.notices, .error (.template (.unreadable .noTemplate blame none)))
    | some root =>
      (found.notices ++ [.parsed file found.imports.length root.children.length],
        .ok ⟨root, found.imports, file⟩)
  | node :: nodes =>
    match node.element? with
    | none => gather file found nodes
    | some e =>
      let blame := if file = [] then none else some file
      match found.add file e with
      | .ok found => gather file found nodes
      | .error f =>
        (found.notices, .error (.template (.unreadable f blame (some e.line))))

/-- Reads the template that a file holds. -/
def Template.parse (file content : Text) : List Notice × Except Failure Template :=
  match documentNodes file content with
  | .ok nodes => gather file {} nodes
  | .error f => ([], .error f)

end JsxTemplate
