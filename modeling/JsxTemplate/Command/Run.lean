import JsxTemplate.Command.Arguments
import JsxTemplate.Command.Task
import JsxTemplate.Console.Sequence
import JsxTemplate.Console.Styled

/-!
# The command line

The terminals that the program runs on, and what it makes of its arguments. They
are checked in the order given, options before operands. The commands know nothing
of this: they work on any terminal, wherever the values of their options come from.
-/

namespace JsxTemplate.Command

/-- The program's name and version. -/
def versionLine : Text := "jsxwire, version 0.1.0\n"

def usageLine : Text :=
  "Usage: jsxwire [--version] [-v] compile TEMPLATE | build SRC_DIR | watch SRC_DIR\n"

/-- What a path argument is to lead to. -/
inductive Wanted where
  | file
  | directory
deriving DecidableEq, Repr

def Wanted.label : Wanted → Text
  | .file => "File"
  | .directory => "Directory"

/-- What a path argument leads to. A slash at its end, or a dot after a slash,
asks for a directory. -/
def argumentTarget? (w : World) (given : Text) : Option Entry :=
  if given = [] then none
  else
    match w.files.found? w.cwd (.parse given) with
    | some (.file bytes) =>
      let last := (given.split '/').getLast?.getD []
      if last = [] ∨ last = ['.'] then none else some (.file bytes)
    | entry => entry

/-- Checks what a path argument leads to. -/
def checkPath (w : World) (wanted : Wanted) (mustExist : Bool) (place given : Text) :
    Except Fault Unit :=
  let refuse (reason : Text) : Except Fault Unit :=
    refuse (some place) (wanted.label ++ " " ++ given.quoted ++ reason)
  if '\x00' ∈ given then .error (.failure .zeroInPath)
  else
    match argumentTarget? w given, wanted with
    | none, _ => if mustExist then refuse " does not exist." else .ok ()
    | some (.file _), .directory => refuse " is a file."
    | some .directory, .file => refuse " is a directory."
    | _, _ => .ok ()

/-- The width of an indentation. -/
def indentWidth (given : Text) : Except Fault Nat :=
  match given.integer? with
  | none => refuse (some "'--indent'") (given.quoted ++ " is not a valid integer range.")
  | some n =>
    if n < 1 then refuse (some "'--indent'") (Text.ofInt n ++ " is not in the range x>=1.")
    else .ok n.toNat

/-- Checks the value that an option was last given. -/
def checkOption (w : World) (p : Parted) (o : Opt) : Except Fault Unit :=
  let given := (p.value? o).getD []
  match o with
  | .out => checkPath w .file false "'--out' / '-o'" given
  | .outDir => checkPath w .directory false "'--out-dir'" given
  | .indent => (indentWidth given).map fun _ => ()
  | _ => .ok ()

/-- Checks all arguments of a command with one operand, and gives the operand. -/
def checkArguments (w : World) (wanted : Wanted) (operand : Text) (p : Parted) :
    Except Fault Text := do
  p.options.forM fun (o, _) => checkOption w p o
  match p.operands with
  | [] => .error (.usage (.missingOperand operand))
  | given :: others =>
    checkPath w wanted true ("'" ++ operand ++ "'") given
    if others.isEmpty then return given
    .error (.usage (.extraOperands others))

/-- The values of the options that commands share. -/
def optionsOf (p : Parted) : Except Fault Options := do
  let indent ← match p.value? .indent with
    | some given => indentWidth given
    | none => .ok 2
  return { indent, extension := (p.value? .ext).getD ".jsx", noReactImport := p.has .noReactImport }

/-- What a command line asks for. -/
inductive Request where
  | version
  | help
  | task (verbose : Bool) (t : Task)
deriving DecidableEq, Repr

def compileTask (w : World) (p : Parted) : Except Fault Task := do
  let template ← checkArguments w .file "TEMPLATE" p
  return .compile (← optionsOf p) (.parse template) ((p.value? .out).map Path.parse)
    (p.value? .name)

/-- The options, source and output of a command on a directory. -/
def directoryTask (task : Options → Path → Option Path → Task) (w : World) (p : Parted) :
    Except Fault Task := do
  let src ← checkArguments w .directory "SRC_DIR" p
  return task (← optionsOf p) (.parse src) ((p.value? .outDir).map Path.parse)

/-- The commands by their names: the options each knows and the task they make. -/
def commands : List (Text × List Opt × (World → Parted → Except Fault Task)) :=
  [("compile", [.out, .name, .noReactImport, .indent, .help], compileTask),
    ("build", [.outDir, .ext, .noReactImport, .indent, .help], directoryTask .build),
    ("watch", [.outDir, .ext, .noReactImport, .indent, .help], directoryTask .watch)]

/-- What the program's own options ask for, if that is all there is to do. -/
def ownRequest? (p : Parted) : Option Request :=
  match p.options.find? fun (o, _) => o = .version ∨ o = .help with
  | some (.version, _) => some .version
  | some _ => some .help
  | none => none

/-- The program's own options, which stand before the command. -/
def ownOptions : List Opt := [.version, .verbose, .help]

/-- Answers a name that is no command's. If it looks like an option, it and what
follows it are taken for options once more. -/
def unknownCommand (name : Text) (args : List Text) : Except Fault Request := do
  let again ←
    if name.head? = some '-' then (part ownOptions false {} (name :: args)).mapError .usage
    else .ok {}
  match ownRequest? again with
  | some r => return r
  | none => .error (.usage (.noSuchCommand name (Text.nearest name (commands.map (·.1)))))

/-- Understands the arguments of the program. No arguments at all ask for help. -/
def request (w : World) (args : List Text) : Except Fault Request := do
  if args.isEmpty then return .help
  let general ← (part ownOptions false {} args).mapError .usage
  match ownRequest? general, general.operands with
  | some r, _ => return r
  | none, [] => .error (.usage .missingCommand)
  | none, name :: args =>
    match commands.lookup name with
    | none => unknownCommand name args
    | some (known, task) =>
      let p ← (part known true {} args).mapError .usage
      if p.has .help then return .help
      return .task (general.has .verbose) (← task w p)

/-- Runs the program with these arguments. -/
def run (terminal : Terminal) (feed : Feed) (args : List Text) : Activity Unit := fun w =>
  match request w args with
  | .error f => .error f w
  | .ok .version => during (Session.print versionLine) w
  | .ok .help => during (Session.print usageLine) w
  | .ok (.task verbose t) => t.invoke terminal verbose feed w

def showFault : Console.StyledFault → ShowFault
  | .emptyComponent => .value (Console.StyledFault.emptyComponent).message
  | f => .markup f.message

/-- A terminal that shows lines without their styles, and notices as they are. -/
def Terminal.plain : Terminal where
  styled s := (Console.plain s).mapError showFault
  echoed := Console.withoutSequences

/-- A terminal that takes notices for styled lines too. -/
def Terminal.colored : Terminal :=
  let refuses (n : Notice) : Option ShowFault :=
    match Console.plain n.message with
    | .ok _ => none
    | .error f => some (showFault f)
  { Terminal.plain with refuses }

end JsxTemplate.Command
