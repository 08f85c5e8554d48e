import JsxTemplate.Text.Basic

/-!
# Ordered tables

Attributes and aliases are tables from names to values that keep their order: a
name stays where it was first put and takes the value it was last given.
-/

namespace JsxTemplate

/-- Names with their values, in the order in which the names came up. -/
abbrev Table (α : Type) := List (Text × α)

namespace Table

variable {α : Type}

/-- Gives `key` a value, at its place if it has one, else at the end. -/
def put (key : Text) (value : α) : Table α → Table α
  | [] => [(key, value)]
  | (k, v) :: t => if k = key then (k, value) :: t else (k, v) :: put key value t

/-- The table that results from giving each name its value in turn. -/
def ofEntries (entries : List (Text × α)) : Table α :=
  entries.foldl (fun t (key, value) => t.put key value) []

/-- The value of a name. -/
def get? (key : Text) : Table α → Option α
  | [] => none
  | (k, v) :: t => if k = key then some v else get? key t

/-- Does a name have a value? -/
def has (key : Text) (t : Table α) : Bool := (t.get? key).isSome

end Table

end JsxTemplate
