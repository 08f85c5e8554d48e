import JsxTemplate.Config
import JsxTemplate.Text.Basic

/-!
# Generated modules

A module imports what its component uses and exports the component as its
default.
-/

namespace JsxTemplate

/-- A component that a template imports: the tag it is used by, the name it has
in the module, and where it comes from. -/
structure ComponentImport where
  tag : Text
  identifier : Text
  source : Text
deriving DecidableEq, Repr

/-- The line that imports a component. -/
def ComponentImport.line (i : ComponentImport) : Text :=
  "import " ++ i.identifier ++ " from '" ++ i.source ++ "';\n"

namespace Jsx

/-- Drops the line feeds at the end of a text. -/
def dropLineEnds : Text → Text
  | [] => []
  | c :: s =>
    match dropLineEnds s with
    | [] => if c = '\n' then [] else [c]
    | d :: r => c :: d :: r

def reactLine : Text := "import React from 'react';\n"

/-- The lines before the component, and an empty one if there are any. -/
def moduleHead (reactImport : Bool) (imports : List ComponentImport) : Text :=
  (if reactImport then reactLine else []) ++ imports.flatMap ComponentImport.line ++
    (if reactImport || !imports.isEmpty then ['\n'] else [])

/-- The module that exports a component with this name and body. -/
def moduleText (config : Config) (name body : Text) (imports : List ComponentImport) : Text :=
  moduleHead config.reactImport imports ++ "export default function " ++ name ++ "(props) \x7b\n" ++
    dropLineEnds body ++ "\n\x7d\n"

end Jsx

end JsxTemplate
