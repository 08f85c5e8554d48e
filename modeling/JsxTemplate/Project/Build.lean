import JsxTemplate.Compile
import JsxTemplate.Project.Session

/-!
# Building

Compiling the templates of a directory, each to its place below the output
directory. A build stops at the first template that does not compile.
-/

namespace JsxTemplate

/-- What a build has made. -/
structure BuildSummary where
  out : Path
  /-- How many templates have been compiled. -/
  compiled : Nat := 0
  targets : List Path := []
deriving DecidableEq, Repr

/-- Counts one more module. -/
def BuildSummary.add (summary : BuildSummary) (target : Path) : BuildSummary :=
  { summary with compiled := summary.compiled + 1, targets := summary.targets ++ [target] }

/-- The module of a template, if the stack is large enough for it. -/
def Host.generate (host : Host) (template : Template) (config : Config) (name : Text) :
    Except Failure Text :=
  if host.overflows config template then .error .tooDeep else template.generate config name

namespace Session

/-- Reads the template in a file. -/
def parseFile (src : Path) : Session Template := do
  let content ← readText src
  let (notices, result) := Template.parse src.toText content
  notices.forM note
  ofExcept result

/-- The component that a file defines is called `name`, or after the file if there is none
or it is empty. -/
def calledName (src : Path) (name : Option Text) : Text :=
  match name.getD [] with
  | [] => Jsx.componentName src.stem
  | name => name

/-- Puts the module of a template at its place. -/
def emit (template target : Path) (source : Text) : Session Text := do
  makeDirectories target.parent
  writeText target source
  note (.compiled template target)
  return source

/-- Compiles a template file. The module is written to `out` if given. -/
def compileFile (config : Config) (src : Path) (out : Option Path) (name : Option Text) :
    Session Text := do
  let template ← parseFile src
  let source ← ofExcept ((← get).host.generate template config (calledName src name))
  match out with
  | none => return source
  | some out => emit src out source

/-- Compiles a template to its place: `done`, or what `rejected` makes of an error in it. -/
def attempt {α : Type} (config : Config) (template target : Path) (done : α)
    (rejected : TemplateError → Session α) : Session α :=
  tryCatch (compileFile config template (some target) none >>= fun _ => pure done) fun
    | .template e => rejected e
    | f => throw f

/-- Compiles one template of a build, which ends at an error in it. -/
def buildOne (config : Config) (src out template : Path) : Session Path := do
  let target ← ofExcept ((template.output src out config.extension).mapError Failure.path)
  attempt config template target target fun e => do
    note (.failed template)
    throw (.template e)

/-- Compiles every template below `src`. Modules go below `out`, or beside their
templates if it is not given. -/
def build (config : Config) (src : Path) (out : Option Path) : Session BuildSummary := do
  let src ← resolve src
  let out ← (out.map resolve).getD (pure src)
  if (← look src) ≠ some .directory then throw (.noSource src)
  let summary ← (← templates src config.templateSuffix).foldlM
    (fun summary template => return summary.add (← buildOne config src out template)) { out }
  note (.built summary.compiled out)
  return summary

end Session

end JsxTemplate
