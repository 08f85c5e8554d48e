import JsxTemplate.Template.Document

/-!
# Sessions

A session works on a file system from a current directory, says what it does,
and may print. A failure leaves the session's world as far as it got.
-/

namespace JsxTemplate

/-- What a session runs on: a handler that is given its notices and may fail on one,
and a stack that may be too small for the tree of a template. -/
structure Host where
  /-- Why a notice cannot be shown, if it cannot. -/
  refuses : Notice → Option ShowFault := fun _ => none
  /-- Is the stack too small for the module of a template? -/
  overflows : Config → Template → Bool := fun _ _ => false

/-- What a session can see and change. -/
structure World where
  /-- The current directory, complete and resolved. -/
  cwd : Path
  files : Store
  host : Host := {}
  notices : List Notice := []
  /-- What has been printed. -/
  printed : Text := []

/-- An activity in a world that yields a value or fails. -/
abbrev Session := EStateM Failure World

namespace Session

/-- Says something, which fails if it cannot be shown. -/
def note (n : Notice) : Session Unit := do
  modify fun w => { w with notices := w.notices ++ [n] }
  match (← get).host.refuses n with
  | none => return
  | some f => throw (.unshown f)

/-- Prints a text. -/
def print (s : Text) : Session Unit :=
  modify fun w => { w with printed := w.printed ++ s }

/-- Goes on with the value of a computation, or fails with its failure. -/
def ofExcept {α : Type} : Except Failure α → Session α
  | .ok a => pure a
  | .error f => throw f

/-- Refuses a path that no file can have. -/
def checkPath (p : Path) : Session Unit := if p.hasZero then throw .zeroInPath else pure ()

/-- The complete path that a path names. -/
def resolve (p : Path) : Session Path := do
  match (← get).cwd.resolve? p with
  | some complete => return complete
  | none => throw .zeroInPath

/-- What a path leads to, if it leads anywhere. -/
def look (p : Path) : Session (Option Entry) := do
  let w ← get
  match w.files.lookup w.cwd p with
  | .ok entry => return some entry
  | .error .nameTooLong => throw (.file ⟨.nameTooLong, p⟩)
  | .error _ => return none

/-- The template files below `src`, at any depth, in the order of their names:
those whose names end in `suffix`, which may be a pattern. -/
def templates (src : Path) (suffix : Text) : Session (List Path) := do
  let pattern ← ofExcept ((Pattern.parse ('*' :: suffix)).mapError Failure.pattern)
  match ← look src with
  | some .directory =>
    let w ← get
    return w.files.select w.cwd src (.deep :: pattern)
  | _ => return []

/-- The bytes of a file. -/
def readBytes (p : Path) : Session Text.Bytes := do
  checkPath p
  let w ← get
  match w.files.read w.cwd p with
  | .ok bytes => return bytes
  | .error r => throw (.file ⟨r, p⟩)

/-- The text of a file, its line ends made line feeds. -/
def readText (p : Path) : Session Text := do
  match Text.decode (← readBytes p) with
  | .ok s => return s.unifyLineEnds
  | .error f => throw (.encoding f)

/-- Writes a text to a file, as it is. -/
def writeText (p : Path) (s : Text) : Session Unit := do
  checkPath p
  let w ← get
  match w.files.write w.cwd p s.encode with
  | .ok files => set { w with files := files }
  | .error r => throw (.file ⟨r, p⟩)

/-- Makes a directory and those above it that are not there. -/
def makeDirectories (p : Path) : Session Unit := do
  checkPath p
  let w ← get
  match w.files.makeDirectories w.cwd p p.parts.length with
  | .ok files => set { w with files := files }
  | .error f => throw (.file f)

/-- Removes a file. -/
def unlink (p : Path) : Session Unit := do
  let w ← get
  match w.files.unlink w.cwd p with
  | .ok files => set { w with files := files }
  | .error r => throw (.file ⟨r, p⟩)

end Session

end JsxTemplate
