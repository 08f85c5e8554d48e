import JsxTemplate.Text.Quoted

/-!
# Paths

A path is a root, if it has one, and the names below it. Reading a path drops
empty names and single dots; double dots stay until the path is resolved.
-/

namespace JsxTemplate

/-- Where a path starts. -/
inductive Root where
  | relative
  | slash
  /-- Two slashes, which some systems tell from one. -/
  | doubleSlash
deriving DecidableEq, Repr

structure Path where
  root : Root
  parts : List Text
deriving DecidableEq, Repr

/-- Why there is no path to answer with. -/
inductive PathFault where
  | suffix (given : Text)
  | noName (path : Path)
  | outside (path dir : Path)
deriving DecidableEq, Repr

def Root.toText : Root → Text
  | .relative => ""
  | .slash => "/"
  | .doubleSlash => "//"

namespace Path

/-- The root that a written path begins with. -/
def rootOf : Text → Root
  | '/' :: '/' :: '/' :: _ => .slash
  | '/' :: '/' :: _ => .doubleSlash
  | '/' :: _ => .slash
  | _ => .relative

/-- Reads a path. -/
def parse (s : Text) : Path :=
  ⟨rootOf s, (s.split '/').filter fun part => part ≠ [] ∧ part ≠ ['.']⟩

/-- The root and the names as they are written, which may be nothing at all. -/
def spelled (p : Path) : Text := p.root.toText ++ ['/'].intercalate p.parts

/-- Writes a path; an empty one is a dot. -/
def toText (p : Path) : Text := if p.spelled = [] then "." else p.spelled

/-- Does the character zero stand in a path? -/
def hasZero (p : Path) : Bool := p.parts.any ('\x00' ∈ ·)

/-- The last name. -/
def name (p : Path) : Text := p.parts.getLast?.getD []

/-- A name without its suffix, and its suffix, which starts at the last dot
unless this is the first or the last character. -/
def splitName (name : Text) : Text × Text :=
  match Text.cutLast? (· == '.') name with
  | some (c :: before, dot :: d :: rest) => (c :: before, dot :: d :: rest)
  | _ => (name, [])

def stem (p : Path) : Text := (splitName p.name).1

def suffix (p : Path) : Text := (splitName p.name).2

def parent (p : Path) : Path := { p with parts := p.parts.dropLast }

/-- A path taken from a directory; a path with a root is already complete. -/
def join (dir p : Path) : Path :=
  match p.root with
  | .relative => { dir with parts := dir.parts ++ p.parts }
  | _ => p

/-- A list of names with each double dot and the name before it taken out. -/
def normalize (parts : List Text) : List Text :=
  parts.foldl (fun kept part => if part = ['.', '.'] then kept.dropLast else kept ++ [part]) []

/-- The complete path that `p` names when taken from the directory `cwd`. However many
slashes `p` begins with, this one begins with one. -/
def resolve (cwd p : Path) : Path := ⟨.slash, normalize (cwd.join p).parts⟩

/-- The complete path that `p` names, unless the character zero stands in a name on the
way, even in one that a double dot takes out. -/
def resolve? (cwd p : Path) : Option Path :=
  if (cwd.join p).hasZero then none else some (cwd.resolve p)

/-- The names that lead from `dir` to `p`. -/
def relativeTo (p dir : Path) : Except PathFault Path :=
  if p.root = dir.root ∧ dir.parts.isPrefixOf p.parts then
    .ok ⟨.relative, p.parts.drop dir.parts.length⟩
  else .error (.outside p dir)

/-- Can a name take this suffix? -/
def suffixAllowed (suffix : Text) : Bool :=
  '/' ∉ suffix ∧ (suffix = [] ∨ suffix.head? = some '.') ∧ suffix ≠ ['.']

/-- Replaces the suffix of the last name. -/
def withSuffix (p : Path) (suffix : Text) : Except PathFault Path :=
  if suffixAllowed suffix then
    if p.name = [] then .error (.noName p)
    else .ok { p with parts := p.parts.dropLast ++ [p.stem ++ suffix] }
  else .error (.suffix suffix)

/-- Where the module of a template goes: the template's place below `src`, taken
below `out`, with the extension of modules. -/
def output (template src out : Path) (extension : Text) : Except PathFault Path :=
  match template.relativeTo src with
  | .ok relative => (out.join relative).withSuffix extension
  | .error f => .error f

/-- Paths are ordered by their roots and then name by name. -/
instance : Ord Path := ⟨compareLex (compareOn fun p => p.root.toText) (compareOn Path.parts)⟩

end Path

def PathFault.message : PathFault → Text
  | .suffix given => "Invalid suffix " ++ given.quoted
  | .noName path => "PosixPath(" ++ path.toText.quoted ++ ") has an empty name"
  | .outside path dir =>
    path.toText.quoted ++ " is not in the subpath of " ++ dir.spelled.quoted ++
      " OR one path is relative and the other is absolute."

end JsxTemplate
