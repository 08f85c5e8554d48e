import JsxTemplate.Config
import JsxTemplate.Files.Store
import JsxTemplate.Markup.Event
import JsxTemplate.Path
import JsxTemplate.Template.Control
import JsxTemplate.Template.Nesting
import JsxTemplate.Text.Utf8

/-!
# Failures

Everything that can go wrong, by cause. The errors of a template are told from
the rest: they are the author's to mend, and a watching session outlives them.
-/

namespace JsxTemplate

/-- What is wrong with the markup of a template. -/
inductive TemplateFault where
  | nesting (f : NestingFault)
  | noTemplate
  /-- A component import does not say where the component comes from. -/
  | importSource
  /-- No component can be named after this tag. -/
  | importName (tag : Text)
deriving DecidableEq, Repr

def TemplateFault.message : TemplateFault → Text
  | .nesting f => f.message
  | .noTemplate => "No <template> element found"
  | .importSource => "Component import needs an \"href\" attribute"
  | .importName tag => "Cannot derive a component name from " ++ tag.quoted

/-- A message with the file and the line it is about. An empty file name and
the line zero say nothing. -/
def locatedMessage (file : Option Text) (line : Option Int) (message : Text) : Text :=
  match file.filter (· ≠ []), line.filter (· ≠ 0) with
  | some file, some line => file ++ ":" ++ Text.ofInt line ++ ": " ++ message
  | some file, none => file ++ ": " ++ message
  | none, some line => "line " ++ Text.ofInt line ++ ": " ++ message
  | none, none => message

/-- A message with the name of the node it is about. -/
def namedMessage (node : Option Text) (message : Text) : Text :=
  match node.filter (· ≠ []) with
  | some name => "<" ++ name ++ ">: " ++ message
  | none => message

/-- An error of a template. -/
inductive TemplateError where
  /-- Its markup is no template. -/
  | unreadable (fault : TemplateFault) (file : Option Text) (line : Option Nat)
  /-- Its tree has no rendering. -/
  | malformed (m : Malformed)
deriving DecidableEq, Repr

def TemplateError.message : TemplateError → Text
  | .unreadable fault file line => locatedMessage file (line.map Int.ofNat) fault.message
  | .malformed m => namedMessage m.node m.fault.message

/-- Why a line or a notice cannot be shown. -/
inductive ShowFault where
  /-- Its markup is wrong. -/
  | markup (message : Text)
  /-- A value in it is wrong. -/
  | value (message : Text)
deriving DecidableEq, Repr

def ShowFault.message : ShowFault → Text
  | .markup message | .value message => message

/-- A failure of any kind. -/
inductive Failure where
  | template (e : TemplateError)
  /-- The markup reader gave up. -/
  | markup (f : Markup.Fault)
  /-- A bare value stands in the place of a node. -/
  | stray
  /-- An attribute of a control has no value at all. -/
  | noValue
  | config (f : ConfigFault)
  | path (f : PathFault)
  /-- The suffix of templates is no pattern. -/
  | pattern (f : Pattern.Fault)
  /-- A file does not hold text. -/
  | encoding (f : Text.DecodeFault)
  | file (f : FileFault)
  /-- A path holds the character zero, which ends names. -/
  | zeroInPath
  /-- There is no directory to build from. -/
  | noSource (dir : Path)
  /-- What was to be said cannot be shown. -/
  | unshown (f : ShowFault)
  /-- A tree is too deep for the stack. -/
  | tooDeep
deriving DecidableEq, Repr

def Failure.ofRender : RenderFault → Failure
  | .malformed m => .template (.malformed m)
  | .stray => .stray
  | .noValue => .noValue

def Failure.message : Failure → Text
  | .template e => e.message
  | .markup f => f.message
  | .stray => "Unknown node type: str"
  | .noValue => "'NoneType' object has no attribute 'strip'"
  | .config f => f.message
  | .path f => f.message
  | .pattern f => f.message
  | .encoding f => f.message
  | .file f => f.message
  | .zeroInPath => "embedded null byte"
  | .noSource dir => "Template directory not found: " ++ dir.toText
  | .unshown f => f.message
  | .tooDeep => "maximum recursion depth exceeded"

end JsxTemplate
