import JsxTemplate.Failure

/-!
# Notices

What the tools have to say while they work. A notice is a fact with a level;
its wording is made from it last.
-/

namespace JsxTemplate

inductive Level where
  | debug
  | info
  | warning
  | error
deriving DecidableEq, Repr

inductive Notice where
  /-- A template file holds another `template` element after its first. -/
  | extraTemplate (file : Text) (line : Nat)
  | parsed (file : Text) (imports nodes : Nat)
  | compiled (template target : Path)
  /-- A build stops at this template. -/
  | failed (template : Path)
  | built (count : Nat) (out : Path)
  /-- The module of a template that is gone is gone too. -/
  | removed (target : Path)
  /-- A watching session passes over a template with this error. -/
  | rejected (e : TemplateError)
  | watching (src : Path)
deriving DecidableEq, Repr

def Notice.level : Notice → Level
  | .parsed .. => .debug
  | .extraTemplate .. => .warning
  | .failed .. | .rejected .. => .error
  | _ => .info

/-- How a template is called in a notice that has no file to name. -/
def fileLabel (file : Text) : Text := if file = [] then "<string>" else file

def Notice.message : Notice → Text
  | .extraTemplate file line =>
    fileLabel file ++ ":" ++ Text.ofNat line ++ ": ignoring extra <template> element"
  | .parsed file imports nodes =>
    "Parsed " ++ fileLabel file ++ ": " ++ Text.ofNat imports ++ " import(s), " ++
      Text.ofNat nodes ++ " root node(s)"
  | .compiled template target => "Compiled " ++ template.toText ++ " -> " ++ target.toText
  | .failed template => "Failed to compile " ++ template.toText
  | .built count out => "Built " ++ Text.ofNat count ++ " template(s) into " ++ out.toText
  | .removed target => "Removed " ++ target.toText
  | .rejected e => "[red]" ++ e.message ++ "[/]"
  | .watching src => "Watching [cyan]" ++ src.toText ++ "[/] for changes..."

end JsxTemplate
