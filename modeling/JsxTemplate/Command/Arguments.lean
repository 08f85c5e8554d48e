import JsxTemplate.Command.Usage
import JsxTemplate.Text.Likeness

/-!
# Command-line arguments

Arguments are parted into options and operands before any of them is looked at
more closely. Options may stand anywhere, a lone `--` ends them, long ones take
their value after an equals sign or from the next argument, and short ones may
be run together. A long option or a command that is not known is answered with
the known ones that are spelled almost like it.
-/

namespace JsxTemplate.Command

/-- The options of all commands. -/
inductive Opt where
  | version
  | verbose
  | help
  | out
  | name
  | indent
  | noReactImport
  | outDir
  | ext
deriving DecidableEq, Repr

/-- The long and the short spelling of an option. -/
def Opt.spellings : Opt → Text × Option Char
  | .version => ("--version", none)
  | .verbose => ("--verbose", some 'v')
  | .help => ("--help", none)
  | .out => ("--out", some 'o')
  | .name => ("--name", none)
  | .indent => ("--indent", none)
  | .noReactImport => ("--no-react-import", none)
  | .outDir => ("--out-dir", none)
  | .ext => ("--ext", none)

/-- Does the option take a value? -/
def Opt.takesValue : Opt → Bool
  | .out | .name | .indent | .outDir | .ext => true
  | .version | .verbose | .help | .noReactImport => false

/-- The options given, in order and with their values, and the operands. -/
structure Parted where
  options : List (Opt × Text) := []
  operands : List Text := []
deriving DecidableEq, Repr

namespace Parted

/-- The value that an option was last given. -/
def value? (p : Parted) (o : Opt) : Option Text :=
  (p.options.reverse.find? fun (given, _) => given = o).map (·.2)

def has (p : Parted) (o : Opt) : Bool := (p.value? o).isSome

def addOption (p : Parted) (o : Opt) (value : Text) : Parted :=
  { p with options := p.options ++ [(o, value)] }

end Parted

/-- The option with this long spelling. -/
def longOpt? (known : List Opt) (spelling : Text) : Option Opt :=
  known.find? fun o => o.spellings.1 = spelling

/-- The option with this short spelling. -/
def shortOpt? (known : List Opt) (letter : Char) : Option Opt :=
  known.find? fun o => o.spellings.2 = some letter

/-- An argument before and after its first equals sign. -/
def atEquals (arg : Text) : Text × Option Text :=
  match Text.cut? "=" arg with
  | some (before, value) => (before, some value)
  | none => (arg, none)

/-- Takes in a long option, and the argument after it if that is its value. -/
def takeLong (p : Parted) (o : Opt) (spelling : Text) (value : Option Text) (rest : List Text) :
    Except UsageFault (Parted × List Text) :=
  match o.takesValue, value, rest with
  | true, some value, _ => .ok (p.addOption o value, rest)
  | true, none, next :: rest => .ok (p.addOption o next, rest)
  | true, none, [] => .error (.needsValue spelling)
  | false, some _, _ => .error (.takesNoValue spelling)
  | false, none, _ => .ok (p.addOption o [], rest)

/-- Takes in the letters of short options that are run together. -/
def takeShort (known : List Opt) (p : Parted) (rest : List Text) :
    Text → Except UsageFault (Parted × List Text)
  | [] => .ok (p, rest)
  | letter :: letters =>
    match shortOpt? known letter with
    | none => .error (.noSuchOption ['-', letter] [])
    | some o =>
      if o.takesValue then
        match letters, rest with
        | _ :: _, _ => .ok (p.addOption o letters, rest)
        | [], next :: rest => .ok (p.addOption o next, rest)
        | [], [] => .error (.needsValue ['-', letter])
      else takeShort known (p.addOption o []) rest letters

/-- Takes in an argument that looks like an option. -/
def takeOption (known : List Opt) (p : Parted) (arg : Text) (rest : List Text) :
    Except UsageFault (Parted × List Text) :=
  let (spelling, value) := atEquals arg
  match longOpt? known spelling, arg with
  | some o, _ => takeLong p o spelling value rest
  | none, '-' :: '-' :: _ =>
    .error (.noSuchOption spelling (Text.nearest spelling (known.map fun o => o.spellings.1)))
  | none, _ => takeShort known p rest (arg.drop 1)

theorem length_le_of_takeLong {p : Parted} {o : Opt} {spelling : Text} {value : Option Text}
    {rest : List Text} {q : Parted × List Text} (h : takeLong p o spelling value rest = .ok q) :
    q.2.length ≤ rest.length := by
  unfold takeLong at h
  split at h <;> simp_all
  all_goals subst h; simp

theorem length_le_of_takeShort {known : List Opt} {rest : List Text} :
    ∀ {letters : Text} {p : Parted} {q : Parted × List Text},
      takeShort known p rest letters = .ok q → q.2.length ≤ rest.length
  | [], p, q, h => by
    simp only [takeShort, Except.ok.injEq] at h
    subst h
    simp
  | letter :: letters, p, q, h => by
    unfold takeShort at h
    split at h
    · simp at h
    · split at h
      · split at h <;> simp_all
        all_goals subst h; simp
      · exact length_le_of_takeShort h

theorem length_le_of_takeOption {known : List Opt} {p : Parted} {arg : Text} {rest : List Text}
    {q : Parted × List Text} (h : takeOption known p arg rest = .ok q) :
    q.2.length ≤ rest.length := by
  unfold takeOption at h
  simp only at h
  split at h
  · exact length_le_of_takeLong h
  · simp at h
  · exact length_le_of_takeShort h

/-- Parts arguments into options and operands. With `scattered` options may
follow operands; else the first operand ends them. -/
def part (known : List Opt) (scattered : Bool) (p : Parted) (args : List Text) :
    Except UsageFault Parted :=
  match args with
  | [] => .ok p
  | arg :: rest =>
    if arg = ['-', '-'] then .ok { p with operands := p.operands ++ rest }
    else if arg.head? = some '-' ∧ arg ≠ ['-'] then
      match _taken : takeOption known p arg rest with
      | .ok q => part known scattered q.1 q.2
      | .error f => .error f
    else if scattered then part known scattered { p with operands := p.operands ++ [arg] } rest
    else .ok { p with operands := p.operands ++ arg :: rest }
termination_by args.length
decreasing_by
  · have := length_le_of_takeOption _taken
    simp only [List.length_cons]
    omega
  · simp

end JsxTemplate.Command
