import JsxTemplate.Command.Usage
import JsxTemplate.Project.Watch

/-!
# Commands

The three commands, once their arguments are understood: `compile` prints or writes
the module of one template, `build` compiles a directory, and `watch` builds it and
then keeps its modules up to date. What becomes of a line that is printed, and of a
notice, is for the terminal to say.
-/

namespace JsxTemplate.Command

/-- Why a command ends without having done its work. -/
inductive Fault where
  | usage (f : UsageFault)
  /-- An indentation is wider than a machine counts to. -/
  | width
  | template (e : TemplateError)
  | failure (f : Failure)
deriving DecidableEq, Repr

def Fault.message : Fault → Text
  | .usage f => f.message
  | .width => "cannot fit 'int' into an index-sized integer"
  | .template e => e.message
  | .failure f => f.message

/-- The status that a command ends with on a fault it foresees. -/
def Fault.exitCode : Fault → Option Nat
  | .usage _ => some 2
  | .template _ => some 1
  | .width | .failure _ => none

def Fault.ofFailure : Failure → Fault
  | .template e => .template e
  | f => .failure f

/-- An activity of a command. -/
abbrev Activity := EStateM Fault World

/-- A session as part of a command. -/
def during {α : Type} (s : Session α) : Activity α := fun w =>
  match s w with
  | .ok a w => .ok a w
  | .error f w => .error (.ofFailure f) w

/-- What the commands are started on. -/
structure Terminal where
  /-- What a styled line is shown as. -/
  styled : Text → Except ShowFault Text
  /-- What the text of a module is shown as. -/
  echoed : Text → Text
  /-- Why a notice cannot be shown, if it cannot. -/
  refuses : Notice → Option ShowFault := fun _ => none

/-- Prints a styled line. -/
def Terminal.print (terminal : Terminal) (s : Text) : Activity Unit :=
  match terminal.styled s with
  | .ok line => during (Session.print (line ++ "\n"))
  | .error f => throw (.failure (.unshown f))

/-- What the watched world does after the first build: the batches it reports,
and whether the user then interrupts the session. -/
structure Feed where
  batches : List Batch := []
  interrupted : Bool := false
deriving DecidableEq, Repr

/-- The values of the options that commands share. -/
structure Options where
  /-- How many blanks a level is indented by. -/
  indent : Nat := 2
  extension : Text := ".jsx"
  noReactImport : Bool := false
deriving DecidableEq, Repr

/-- Refuses a value. -/
def refuse {α : Type} (place : Option Text) (reason : Text) : Except Fault α :=
  .error (.usage (.badValue place reason))

/-- The configuration that options ask for. -/
def Options.config (o : Options) : Except Fault Config :=
  if Nat.pow 2 63 ≤ o.indent then .error .width
  else
    let config : Config :=
      { indent := List.replicate o.indent ' '
        extension := o.extension
        reactImport := !o.noReactImport }
    match config.fault? with
    | some f => refuse none f.message
    | none => .ok config

/-- Compiles one template, and prints its module unless it is written to `out`. -/
def compile (terminal : Terminal) (o : Options) (template : Path) (out : Option Path)
    (name : Option Text) : Activity Unit := do
  let config ← MonadExcept.ofExcept { o with extension := ".jsx" }.config
  let source ← during (Session.compileFile config template out name)
  if out.isNone then during (Session.print (terminal.echoed source))

/-- Compiles a directory. -/
def build (terminal : Terminal) (o : Options) (src : Path) (out : Option Path) :
    Activity Unit := do
  let config ← MonadExcept.ofExcept o.config
  terminal.print ("🔨 Building [cyan]" ++ src.toText ++ "[/]...")
  let summary ← during (Session.build config src out)
  terminal.print ("✅ Build complete (templates=" ++ Text.ofNat summary.compiled ++ ", out=" ++
    summary.out.toText ++ ")")

/-- Compiles a directory, and then its templates as they change. A template with an
error does not keep it from watching. -/
def watch (terminal : Terminal) (feed : Feed) (o : Options) (src : Path) (out : Option Path) :
    Activity Unit := do
  let config ← MonadExcept.ofExcept o.config
  try
    let _ ← during (Session.build config src out)
  catch
    | .template e => terminal.print ("[red]" ++ e.message ++ "[/]")
    | f => throw f
  during (Session.watch config src out feed.batches)
  if feed.interrupted then terminal.print "👋 Stopped watching"

/-- A command with its arguments. -/
inductive Task where
  | compile (o : Options) (template : Path) (out : Option Path) (name : Option Text)
  | build (o : Options) (src : Path) (out : Option Path)
  | watch (o : Options) (src : Path) (out : Option Path)
deriving DecidableEq, Repr

def Task.perform (terminal : Terminal) (feed : Feed) : Task → Activity Unit
  | .compile o template out name => Command.compile terminal o template out name
  | .build o src out => Command.build terminal o src out
  | .watch o src out => Command.watch terminal feed o src out

/-- A world whose notices go to the terminal, debugging ones only if asked for. -/
def Terminal.attach (terminal : Terminal) (verbose : Bool) (w : World) : World :=
  let refuses (n : Notice) : Option ShowFault :=
    if verbose ∨ n.level ≠ .debug then terminal.refuses n else none
  { w with host := { w.host with refuses } }

/-- The world after some work, without the debugging notices it gave. -/
def quieten (before after : World) : World :=
  let said := after.notices.drop before.notices.length
  { after with notices := before.notices ++ said.filter (·.level ≠ .debug) }

/-- Performs a task. Debugging notices are only kept when asked for. -/
def Task.invoke (terminal : Terminal) (verbose : Bool) (feed : Feed) (t : Task) :
    Activity Unit := fun w =>
  let heard (after : World) : World := if verbose then after else quieten w after
  match t.perform terminal feed (terminal.attach verbose w) with
  | .ok a after => .ok a (heard after)
  | .error f after => .error f (heard after)

end JsxTemplate.Command
