import JsxTemplate.Command.Run

/-!
# The program

Brings the files that the arguments name into memory, runs the command there,
and carries what it changed back to the disk.
-/

namespace JsxTemplate.Program

open Command

/-- The entry of the disk at a place. -/
def diskEntry (place : Place) : IO.FS.DirEntry :=
  ⟨"/", String.ofList (['/'].intercalate place)⟩

/-- Adds what stands on the disk at a place and below it. -/
partial def load (files : Store) (place : Place) : IO Store := do
  let path := (diskEntry place).path
  if ← path.isDir then
    let mut files := files.putDirectories place
    for child in ← path.readDir do
      files ← load files (place ++ [child.fileName.toList])
    return files
  else if ← path.pathExists then
    let bytes ← IO.FS.readBinFile path
    return (files.putDirectories place.dropLast).insert place (.file bytes.toList)
  else return files

/-- The files that arguments name, as operands or as values of options. -/
def loadNamed (cwd : Path) (args : List Text) : IO Store := do
  let mut files := (∅ : Store).putDirectories cwd.parts
  for arg in args do
    for given in [arg, (atEquals arg).2.getD arg] do
      if given ≠ [] then files ← load files (cwd.resolve (.parse given)).parts
  return files

/-- Writes the difference between two states of the files to the disk. -/
def save (before after : Store) : IO Unit := do
  for (place, entry) in after.toList do
    if before[place]? ≠ some entry then
      let path := (diskEntry place).path
      match entry with
      | .directory => IO.FS.createDirAll path
      | .file bytes => IO.FS.writeBinFile path ⟨bytes.toArray⟩
  for (place, entry) in before.toList do
    if entry ≠ .directory ∧ (after[place]?).isNone then IO.FS.removeFile (diskEntry place).path

/-- Shows what a world has to say and to print, and keeps its files. -/
def settle (before after : World) : IO Unit := do
  save before.files after.files
  for n in after.notices do
    IO.eprintln (String.ofList ((Console.plain n.message).toOption.getD n.message))
  IO.print (String.ofList after.printed)
  (← IO.getStdout).flush

/-- The files that differ between two states. -/
def differences (before after : Store) : List Change :=
  let report (kind : ChangeKind) (place : Place) : Change := ⟨kind, ⟨.slash, place⟩⟩
  let now := after.toList.filterMap fun (place, entry) =>
    if before[place]? = some entry then none
    else some (report (if before.contains place then .modified else .added) place)
  let gone := before.toList.filterMap fun (place, _) =>
    if after.contains place then none else some (report .deleted place)
  now ++ gone

/-- Reports a fault, and gives the status to end with. -/
def stopAt (f : Fault) : IO UInt32 := do
  IO.eprintln ("Error: " ++ String.ofList f.message)
  return UInt32.ofNat (f.exitCode.getD 1)

/-- Looks at the watched directory again and again, and keeps its modules up to
date. It only ends at a fault that is not a template's. -/
partial def follow (verbose : Bool) (config : Config) (src out : Path) (args : List Text)
    (w : World) : IO UInt32 := do
  IO.sleep 500
  let files ← loadNamed w.cwd args
  let seen := { w with files := files, notices := [], printed := [] }
  let heard (after : World) : World := if verbose then after else quieten seen after
  match during (Session.applyChanges config src out (differences w.files files)) seen with
  | .ok _ after =>
    settle seen (heard after)
    follow verbose config src out args after
  | .error f after =>
    settle seen (heard after)
    stopAt f

/-- Runs the program and gives its status. -/
def start (args : List Text) : IO UInt32 := do
  let here ← IO.currentDir
  let cwd := Path.parse here.toString.toList
  let w : World := { cwd := cwd, files := ← loadNamed cwd args }
  match run .colored {} args w with
  | .error f after =>
    settle w after
    stopAt f
  | .ok _ after =>
    settle w after
    match request w args with
    | .ok (.task verbose (.watch o src out)) =>
      match o.config with
      | .ok config =>
        let src := cwd.resolve src
        follow verbose config src ((out.map cwd.resolve).getD src) args after
      | .error f => stopAt f
    | _ => return 0

end JsxTemplate.Program

def main (args : List String) : IO UInt32 :=
  JsxTemplate.Program.start (args.map String.toList)
