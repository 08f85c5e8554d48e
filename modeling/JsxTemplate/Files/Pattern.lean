import JsxTemplate.Path

/-!
# File patterns

A pattern picks files by the names that lead to them. Each of its parts stands
for one name, except that a part of two stars stands for any number of
directories and a part of two dots leads back to the directory above. Within a
part a star stands for any characters, a question mark for one character, and
brackets for one character out of a set.
-/

namespace JsxTemplate

namespace Pattern

/-- What stands for characters of a name. -/
inductive Mark where
  /-- Any characters, or none. -/
  | run
  | char (c : Char)
  /-- One character that is in one of the ranges or, if `negated`, in none. -/
  | oneOf (negated : Bool) (ranges : List (Char × Char))
deriving DecidableEq, Repr

/-- A part of a pattern. -/
inductive Part where
  /-- A name. -/
  | name (marks : List Mark)
  /-- Any number of directories. -/
  | deep
  /-- The directory above. -/
  | up
deriving DecidableEq, Repr

/-- Why a text is no pattern. -/
inductive Fault where
  /-- Two stars stand beside other characters. -/
  | stars
deriving DecidableEq, Repr

def Fault.message : Fault → Text
  | .stars => "Invalid pattern: '**' can only be an entire path component"

/-- The characters and ranges written in a set. A hyphen between two characters
makes them the ends of a range. -/
def ranges : Text → List (Char × Option Char)
  | first :: '-' :: last :: s => (first, some last) :: ranges s
  | c :: s => (c, none) :: ranges s
  | [] => []

/-- Splits off the set whose opening bracket stands before a text: whether it is
negated, what is in it, and what follows it. A bracket does not close a set that
is empty. -/
def set? (s : Text) : Option (Bool × Text × Text) :=
  let negated := s.head? = some '!'
  match if negated then s.tail else s with
  | [] => none
  | c :: s => (Text.cut? [']'] s).map fun (more, rest) => (negated, c :: more, rest)

theorem length_lt_of_set? {s body rest : Text} {negated : Bool}
    (h : set? s = some (negated, body, rest)) : rest.length < s.length := by
  unfold set? at h
  simp only at h
  split at h
  · simp at h
  · next c t ht =>
    simp only [Option.map_eq_some_iff, Prod.mk.injEq, Prod.exists] at h
    obtain ⟨more, r, hcut, _, _, rfl⟩ := h
    have hle : (c :: t).length ≤ s.length := by
      rw [← ht]
      split
      · simp
      · exact Nat.le_refl _
    have := congrArg List.length (Text.eq_append_of_cut? hcut)
    simp only [List.length_append, List.length_cons] at this hle
    omega

/-- The mark of a set. Ranges without any character are left out. A set that then
begins with an exclamation mark is negated too, and what followed the mark as the
end of a range stands, like the hyphen, for itself. -/
def setMark (negated : Bool) (body : Text) : Mark :=
  let kept := (ranges body).filter fun (first, last) => first ≤ last.getD first
  let ends (l : List (Char × Option Char)) := l.map fun (first, last) => (first, last.getD first)
  match negated, kept with
  | false, ('!', none) :: rest => .oneOf true (ends rest)
  | false, ('!', some last) :: rest => .oneOf true (('-', '-') :: (last, last) :: ends rest)
  | _, _ => .oneOf negated (ends kept)

/-- Reads the pattern of a name. A bracket that opens no set stands for itself. -/
def marks (s : Text) : List Mark :=
  match s with
  | [] => []
  | '*' :: s => .run :: marks s
  | '?' :: s => .oneOf true [] :: marks s
  | '[' :: s =>
    match _found : set? s with
    | some (negated, body, rest) => setMark negated body :: marks rest
    | none => .char '[' :: marks s
  | c :: s => .char c :: marks s
termination_by s.length
decreasing_by
  · simp
  · simp
  · have := length_lt_of_set? _found
    simp only [List.length_cons]
    omega
  · simp
  · simp

/-- Reads a part of a pattern. -/
def part (s : Text) : Except Fault Part :=
  if s = ['*', '*'] then .ok .deep
  else if s = ['.', '.'] then .ok .up
  else if (Text.cut? ['*', '*'] s).isSome then .error .stars
  else .ok (.name (marks s))

/-- Reads a pattern. After a slash at its end stands a name without characters,
which no file has. -/
def parse (s : Text) : Except Fault (List Part) :=
  let names := (Path.parse s).parts
  (if s.getLast? = some '/' then names ++ [[]] else names).mapM part

/-- What is left of a list after any number of its elements, from all of it to
nothing. -/
def ends {α : Type} : List α → List (List α)
  | [] => [[]]
  | a :: l => (a :: l) :: ends l

/-- Does a name have this pattern? -/
def fits : List Mark → Text → Bool
  | [], name => name.isEmpty
  | .run :: marks, name => (ends name).any (fits marks)
  | .char c :: marks, name =>
    match name with
    | [] => false
    | d :: name => c = d && fits marks name
  | .oneOf negated ranges :: marks, name =>
    match name with
    | [] => false
    | d :: name =>
      (ranges.any fun (first, last) => first ≤ d && d ≤ last) != negated && fits marks name

/-- Does the file that these names lead to have this pattern? -/
def picks : List Part → List Text → Bool
  | [], names => names.isEmpty
  | .name marks :: parts, names =>
    match names with
    | [] => false
    | name :: names => fits marks name && picks parts names
  | .deep :: parts, names => (ends names).any fun rest => !rest.isEmpty && picks parts rest
  | .up :: parts, names =>
    match names with
    | [] => false
    | name :: names => name = ['.', '.'] && picks parts names

end Pattern

end JsxTemplate
