import JsxTemplate.Text.Blank
import JsxTemplate.Text.Quoted

/-!
# Configuration

How generated code is laid out, and which files it is generated from and to.
-/

namespace JsxTemplate

structure Config where
  /-- One unit of indentation. -/
  indent : Text := "  "
  /-- The extension of generated files. -/
  extension : Text := ".jsx"
  /-- Does a module begin by importing `React`? -/
  reactImport : Bool := true
  /-- The end of the names of template files. -/
  templateSuffix : Text := ".html"
deriving DecidableEq, Repr

/-- Why a configuration is refused. -/
inductive ConfigFault where
  | indent
  | extension (given : Text)
  | templateSuffix (given : Text)
deriving DecidableEq, Repr

def ConfigFault.message : ConfigFault → Text
  | .indent => "indent must be a non-empty run of whitespace"
  | .extension given => "extension must start with '.', got " ++ given.quoted
  | .templateSuffix given => "template_suffix must start with '.', got " ++ given.quoted

/-- The first field that is not as it should be. -/
def Config.fault? (config : Config) : Option ConfigFault :=
  if config.indent = [] ∨ !config.indent.blank then some .indent
  else if config.extension.head? ≠ some '.' then some (.extension config.extension)
  else if config.templateSuffix.head? ≠ some '.' then some (.templateSuffix config.templateSuffix)
  else none

end JsxTemplate
