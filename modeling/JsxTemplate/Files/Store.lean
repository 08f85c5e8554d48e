import JsxTemplate.Files.Pattern
import JsxTemplate.Text.Utf8
import Std.Data.TreeMap
import Std.Data.TreeSet

/-!
# Files

A file system is a map from places to files and directories. A place is the
list of names that lead to it from the root, which is always a directory, and
places are ordered name by name.
-/

namespace JsxTemplate

/-- The names that lead from the root to an entry. -/
abbrev Place := List Text

/-- What stands at a place. -/
inductive Entry where
  | directory
  | file (bytes : Text.Bytes)
deriving DecidableEq, Repr

/-- All files and directories below the root. -/
abbrev Store := Std.TreeMap Place Entry compare

/-- Why the file system refuses an operation. -/
inductive Refusal where
  | missing
  | occupied
  | notDirectory
  | isDirectory
  | nameTooLong
deriving DecidableEq, Repr

/-- A refused operation and the path it was asked for. -/
structure FileFault where
  refusal : Refusal
  path : Path
deriving DecidableEq, Repr

def Refusal.message : Refusal → Text
  | .missing => "[Errno 2] No such file or directory"
  | .occupied => "[Errno 17] File exists"
  | .notDirectory => "[Errno 20] Not a directory"
  | .isDirectory => "[Errno 21] Is a directory"
  | .nameTooLong => "[Errno 36] File name too long"

def FileFault.message (f : FileFault) : Text :=
  f.refusal.message ++ ": " ++ f.path.toText.quoted

namespace Store

/-- What stands at a place. -/
def at? (s : Store) (place : Place) : Option Entry :=
  if place = [] then some .directory else s[place]?

/-- The greatest number of bytes in a name. -/
def maxNameBytes : Nat := 255

/-- Follows names from a directory. Each name but the last has to lead to a
directory. -/
def follow (s : Store) (start : Place) : List Text → Except Refusal Place
  | [] => .ok start
  | name :: names =>
    match s.at? start with
    | none => .error .missing
    | some (.file _) => .error .notDirectory
    | some .directory =>
      if name = ['.', '.'] then follow s start.dropLast names
      else if maxNameBytes < name.encode.length then .error .nameTooLong
      else follow s (start ++ [name]) names

/-- The greatest number of bytes in a path. -/
def maxPathBytes : Nat := 4095

/-- The place that a path names when taken from the directory `cwd`. -/
def locate (s : Store) (cwd p : Path) : Except Refusal Place :=
  if maxPathBytes < p.toText.encode.length then .error .nameTooLong
  else
    match p.root with
    | .relative => s.follow cwd.parts p.parts
    | _ => s.follow [] p.parts

/-- What a path leads to. -/
def lookup (s : Store) (cwd p : Path) : Except Refusal Entry :=
  match s.locate cwd p with
  | .error r => .error r
  | .ok place =>
    match s.at? place with
    | none => .error .missing
    | some entry => .ok entry

/-- What a path leads to, if it leads anywhere. -/
def found? (s : Store) (cwd p : Path) : Option Entry := (s.lookup cwd p).toOption

def isDirectory (s : Store) (cwd p : Path) : Bool := s.found? cwd p = some .directory

/-- The bytes of a file. -/
def read (s : Store) (cwd p : Path) : Except Refusal Text.Bytes :=
  match s.lookup cwd p with
  | .error r => .error r
  | .ok .directory => .error .isDirectory
  | .ok (.file bytes) => .ok bytes

/-- Puts a file where there is none or replaces the one that is there. -/
def write (s : Store) (cwd p : Path) (bytes : Text.Bytes) : Except Refusal Store :=
  match s.locate cwd p with
  | .error r => .error r
  | .ok place =>
    if s.at? place = some .directory then .error .isDirectory
    else .ok (s.insert place (.file bytes))

/-- Removes a file. -/
def unlink (s : Store) (cwd p : Path) : Except Refusal Store :=
  match s.locate cwd p with
  | .error r => .error r
  | .ok place =>
    match s.at? place with
    | none => .error .missing
    | some .directory => .error .isDirectory
    | some (.file _) => .ok (s.erase place)

/-- Makes a directory in one that is there. -/
def makeDirectory (s : Store) (cwd p : Path) : Except Refusal Store :=
  match s.locate cwd p with
  | .error r => .error r
  | .ok place =>
    match s.at? place with
    | none => .ok (s.insert place .directory)
    | some _ => .error .occupied

/-- Makes a directory in one that is there, unless it is there itself. -/
def ensureDirectory (s : Store) (cwd p : Path) : Except FileFault Store :=
  match s.makeDirectory cwd p with
  | .ok s => .ok s
  | .error r => if s.isDirectory cwd p then .ok s else .error ⟨r, p⟩

/-- Makes the directory with the first `n` names of `p`, and before it those
above that are not there. -/
def makeDirectories (s : Store) (cwd p : Path) : Nat → Except FileFault Store
  | 0 => .ok s
  | n + 1 =>
    let dir : Path := { p with parts := p.parts.take (n + 1) }
    match s.makeDirectory cwd dir with
    | .error .missing =>
      match s.makeDirectories cwd p n with
      | .ok s => s.ensureDirectory cwd dir
      | .error f => .error f
    | _ => s.ensureDirectory cwd dir

/-- The files below a directory that have a pattern, by the names that lead to
them from there, in order. -/
def filesBelow (s : Store) (dir : Place) (pattern : List Pattern.Part) : List Place :=
  s.toList.filterMap fun (place, entry) =>
    match entry with
    | .directory => none
    | .file _ =>
      let below := place.drop dir.length
      if dir.isPrefixOf place && Pattern.picks pattern below then some below else none

/-- The directories below a directory, or that one itself, from which a pattern
leads on to the directory above. -/
def directoriesBelow (s : Store) (dir : Place) (pattern : List Pattern.Part) : List Place :=
  let below := s.toList.filterMap fun (place, entry) =>
    match entry with
    | .directory =>
      if dir.isPrefixOf place ∧ place ≠ dir then some (place.drop dir.length) else none
    | .file _ => none
  ([] :: below).filter fun below => Pattern.picks (pattern ++ [.up]) (below ++ [['.', '.']])

/-- The names that lead from a directory to the files that have a pattern, in order.
`taken` is the part of the pattern between the last double dots and the rest. -/
def routes (s : Store) (dir : Place) (taken : List Pattern.Part) :
    List Pattern.Part → List (List Text)
  | [] => s.filesBelow dir taken
  | .up :: parts =>
    let found := (s.directoriesBelow dir taken).flatMap fun below =>
      (s.routes (dir ++ below).dropLast [] parts).map fun names => below ++ ['.', '.'] :: names
    (Std.TreeSet.ofList found compare).toList
  | part :: parts => s.routes dir (taken ++ [part]) parts

/-- The files that have a pattern below `src`, in the order of their names. -/
def select (s : Store) (cwd src : Path) (pattern : List Pattern.Part) : List Path :=
  match s.locate cwd src with
  | .error _ => []
  | .ok dir =>
    if s.at? dir = some .directory then
      (s.routes dir [] pattern).map fun below => { src with parts := src.parts ++ below }
    else []

end Store

end JsxTemplate
