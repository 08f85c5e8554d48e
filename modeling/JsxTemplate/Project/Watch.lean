import JsxTemplate.Project.Build
import Std.Data.TreeSet

/-!
# Watching

While a directory is watched, files change under the session and it is told
which ones, batch by batch. Each template it is told of is looked at once,
however often and in whatever way it is said to have changed.
-/

namespace JsxTemplate

/-- How a file is said to have changed. -/
inductive ChangeKind where
  | added
  | modified
  | deleted
deriving DecidableEq, Repr

/-- A report that a file has changed. -/
structure Change where
  kind : ChangeKind
  path : Path
deriving DecidableEq, Repr

/-- A change that others make to the files. -/
inductive Edit where
  | makeDirectory (path : Path)
  | write (path : Path) (bytes : Text.Bytes)
  /-- Removes a file, or a directory and all below it. -/
  | remove (path : Path)
deriving DecidableEq, Repr

/-- What happens between two looks at the files, and what is reported of it. -/
structure Batch where
  edits : List Edit
  changes : List Change
deriving DecidableEq, Repr

namespace Store

/-- Puts directories at each place on the way to one where nothing is. -/
def putDirectories (s : Store) (place : Place) : Store :=
  (List.range place.length).foldl (fun s n =>
    let dir := place.take (n + 1)
    if (s.at? dir).isSome then s else s.insert dir .directory) s

/-- The files after an edit. -/
def edit (s : Store) (cwd : Path) : Edit → Store
  | .makeDirectory path => s.putDirectories (cwd.resolve path).parts
  | .write path bytes =>
    let place := (cwd.resolve path).parts
    (s.putDirectories place.dropLast).insert place (.file bytes)
  | .remove path => s.filter fun place _ => !(cwd.resolve path).parts.isPrefixOf place

end Store

namespace Session

/-- The templates among some files, each once, in order. -/
def templatesAmong (suffix : Text) (paths : List Path) : List Path :=
  (Std.TreeSet.ofList (paths.filter fun p => p.suffix = suffix) compare).toList

/-- Removes the module of a template that is gone. -/
def discard (target : Path) : Session Unit := do
  if (← look target).isSome then
    unlink target
    note (.removed target)

/-- Brings the module of one reported template up to date: `some` module if one
was written. The module of a template that is gone is removed. A template with
an error, or outside the watched directory, is passed over. -/
def refresh (config : Config) (src out template : Path) : Session (Option Path) := do
  match template.output src out config.extension with
  | .error _ => return none
  | .ok target =>
    match ← look template with
    | some (.file _) =>
      attempt config template target (some target) fun e => do
        note (.rejected e)
        return none
    | _ =>
      discard target
      return none

/-- Brings the modules of all reported templates up to date; the ones that were
written. -/
def applyChanges (config : Config) (src out : Path) (changes : List Change) :
    Session (List Path) := do
  let paths ← changes.mapM fun c => resolve c.path
  let modules ← (templatesAmong config.templateSuffix paths).mapM (refresh config src out)
  return modules.filterMap id

/-- Applies batches to the modules of a directory. -/
def watch (config : Config) (src : Path) (out : Option Path) (batches : List Batch) :
    Session Unit := do
  let src ← resolve src
  let out ← (out.map resolve).getD (pure src)
  note (.watching src)
  batches.forM fun batch => do
    modify fun w => { w with files := batch.edits.foldl (·.edit w.cwd ·) w.files }
    let _ ← applyChanges config src out batch.changes

end Session

end JsxTemplate
