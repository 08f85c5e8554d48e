import JsxTemplate.Jsx.Module
import JsxTemplate.Jsx.Render
import JsxTemplate.Template.Document

/-!
# Compiling a template

The module of a template returns the rendering of its first node.
-/

namespace JsxTemplate

/-- The renderer for a template under a configuration. -/
def Config.renderer (config : Config) (aliases : Table Text) : Jsx.Renderer :=
  { unit := config.indent, aliases := aliases }

/-- The module of a template, with a component called `name`. -/
def Template.generate (t : Template) (config : Config) (name : Text) : Except Failure Text :=
  match (config.renderer t.aliases).component t.root with
  | .ok body => .ok (Jsx.moduleText config name body t.imports)
  | .error f => .error (.ofRender f)

/-- The module of a template's text, with the notices on the way. -/
def compile (config : Config) (name file content : Text) : List Notice × Except Failure Text :=
  match Template.parse file content with
  | (notices, .error f) => (notices, .error f)
  | (notices, .ok t) => (notices, t.generate config name)

end JsxTemplate
