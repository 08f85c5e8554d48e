import JsxTemplate.Template.Nesting
import JsxTemplate.Proofs.Table

/-!
# Which events make a tree, and which tree

Growing a tree succeeds on the events whose tags balance, void elements left
out of account. The first closing tag that does not fit is the fault, and an
element left open is one only when every closing tag fits. A tree that has
grown, written out again, is the list of its events in normal form.

The growing tree follows a scan that keeps the open tags and nothing else; the
scan is compared with balance, the trees with the normal form.
-/

namespace JsxTemplate

open Markup (Event Located)

/-- The document that a list of events makes. -/
def grown (events : List Located) : Except NestingFault (List Node) :=
  (({} : Growth).handleAll events).bind Growth.finish

/-! ## Balance -/

/-- A tag that needs a partner, and its line. -/
inductive Bracket where
  | opens (name : Text) (line : Nat)
  | closes (name : Text) (line : Nat)
deriving DecidableEq, Repr

/-- The bracket that an event is. Tags of void elements are none. -/
def bracket? (here : Located) : Option Bracket :=
  match here.event with
  | .opening name _ => if isVoid name then none else some (.opens name here.line)
  | .closing name => if isVoid name then none else some (.closes name here.line)
  | _ => none

def brackets (events : List Located) : List Bracket := events.filterMap bracket?

/-- Every bracket has its partner, and pairs do not cross. -/
inductive Balanced : List Bracket → Prop
  | nil : Balanced []
  | wrap {inner rest : List Bracket} (name : Text) (opened closed : Nat) (hinner : Balanced inner)
      (hrest : Balanced rest) :
      Balanced (.opens name opened :: inner ++ .closes name closed :: rest)

/-- Every closing bracket has its partner, and the brackets without one are
those of `stack`, the last first. -/
inductive Unclosed : List Bracket → List (Text × Nat) → Prop
  | balanced {bs : List Bracket} (h : Balanced bs) : Unclosed bs []
  | opened {bs inner : List Bracket} {stack : List (Text × Nat)} (name : Text) (line : Nat)
      (h : Unclosed bs stack) (hinner : Balanced inner) :
      Unclosed (bs ++ .opens name line :: inner) ((name, line) :: stack)

/-- What is wrong with brackets that do not balance, on which line, and how the
fault is worded. -/
inductive Faulty (bs : List Bracket) : NestingFault → Nat → Text → Prop
  | unexpected {before after : List Bracket} {tag : Text} {line : Nat}
      (split : bs = before ++ .closes tag line :: after) (h : Balanced before) :
      Faulty bs (.unexpected tag line) line ("Unexpected closing tag </" ++ tag ++ ">")
  | mismatched {before after : List Bracket} {stack : List (Text × Nat)} {name tag : Text}
      {opened line : Nat} (split : bs = before ++ .closes tag line :: after)
      (h : Unclosed before ((name, opened) :: stack)) (other : name ≠ tag) :
      Faulty bs (.mismatched name opened tag line) line
        ("Expected </" ++ name ++ "> (opened on line " ++ Text.ofNat opened ++
          ") but found </" ++ tag ++ ">")
  | unclosed {stack : List (Text × Nat)} {name : Text} {line : Nat}
      (h : Unclosed bs ((name, line) :: stack)) :
      Faulty bs (.unclosed name line) line ("Unclosed element <" ++ name ++ ">")

theorem Balanced.append {u v : List Bracket} (hu : Balanced u) (hv : Balanced v) :
    Balanced (u ++ v) := by
  induction hu with
  | nil => exact hv
  | wrap name opened closed hinner _ _ ih =>
    rw [List.append_assoc, List.cons_append]
    exact .wrap name opened closed hinner ih

theorem Unclosed.nil {bs : List Bracket} (h : Unclosed bs []) : Balanced bs := by
  cases h with
  | balanced h => exact h

theorem Unclosed.append {bs w : List Bracket} {stack : List (Text × Nat)}
    (h : Unclosed bs stack) (hw : Balanced w) : Unclosed (bs ++ w) stack := by
  cases h with
  | balanced h => exact .balanced (h.append hw)
  | opened name line h hinner =>
    rw [List.append_assoc, List.cons_append]
    exact .opened name line h (hinner.append hw)

/-- The partner of the last open bracket closes it. -/
theorem Unclosed.close {bs : List Bracket} {stack : List (Text × Nat)} {name : Text}
    {opened : Nat} (h : Unclosed bs ((name, opened) :: stack)) (closed : Nat) :
    Unclosed (bs ++ [.closes name closed]) stack := by
  cases h with
  | opened _ _ h hinner =>
    rw [List.append_assoc, List.cons_append]
    exact h.append (.wrap name opened closed hinner .nil)

/-! ## The scan of open tags -/

/-- The open tags after some more brackets, innermost first. -/
def scan (stack : List (Text × Nat)) : List Bracket → Except NestingFault (List (Text × Nat))
  | [] => .ok stack
  | .opens name line :: bs => scan ((name, line) :: stack) bs
  | .closes tag line :: bs =>
    match stack with
    | [] => .error (.unexpected tag line)
    | (name, opened) :: stack =>
      if name = tag then scan stack bs else .error (.mismatched name opened tag line)

theorem Balanced.scan {bs : List Bracket} (h : Balanced bs) (stack : List (Text × Nat))
    (rest : List Bracket) : scan stack (bs ++ rest) = JsxTemplate.scan stack rest := by
  induction h generalizing stack rest with
  | nil => rfl
  | wrap name opened closed _ _ ihinner ihrest =>
    rw [List.append_assoc, List.cons_append, List.cons_append, JsxTemplate.scan, ihinner,
      JsxTemplate.scan, if_pos rfl, ihrest]

theorem Unclosed.scan {bs : List Bracket} {stack : List (Text × Nat)} (h : Unclosed bs stack)
    (rest : List Bracket) : scan [] (bs ++ rest) = JsxTemplate.scan stack rest := by
  induction h generalizing rest with
  | balanced h => exact h.scan [] rest
  | opened name line _ hinner ih =>
    rw [List.append_assoc, ih, List.cons_append, JsxTemplate.scan, hinner.scan]

/-- What the scan keeps is what is not closed. -/
theorem unclosed_of_scan {rest : List Bracket} :
    ∀ {bs : List Bracket} {stack stack' : List (Text × Nat)}, Unclosed bs stack →
      scan stack rest = .ok stack' → Unclosed (bs ++ rest) stack' := by
  induction rest with
  | nil =>
    intro bs stack stack' h hs
    cases hs
    rwa [List.append_nil]
  | cons b rest ih =>
    intro bs stack stack' h hs
    rw [List.append_cons]
    cases b with
    | opens name line => exact ih (.opened name line h .nil) hs
    | closes tag line =>
      cases stack with
      | nil => cases hs
      | cons top stack =>
        obtain ⟨name, opened⟩ := top
        rw [scan] at hs
        by_cases hn : name = tag
        · rw [if_pos hn] at hs
          exact ih (hn ▸ h.close line) hs
        · rw [if_neg hn] at hs
          cases hs

/-- The scan stops at the first closing tag that does not fit. -/
theorem faulty_of_scan {rest : List Bracket} {f : NestingFault} :
    ∀ {bs : List Bracket} {stack : List (Text × Nat)}, Unclosed bs stack →
      scan stack rest = .error f → Faulty (bs ++ rest) f f.line f.message := by
  induction rest with
  | nil =>
    intro bs stack h hs
    cases hs
  | cons b rest ih =>
    intro bs stack h hs
    cases b with
    | opens name line =>
      rw [List.append_cons]
      exact ih (.opened name line h .nil) hs
    | closes tag line =>
      cases stack with
      | nil =>
        cases hs
        exact .unexpected rfl h.nil
      | cons top stack =>
        obtain ⟨name, opened⟩ := top
        rw [scan] at hs
        by_cases hn : name = tag
        · rw [if_pos hn] at hs
          rw [List.append_cons]
          exact ih (hn ▸ h.close line) hs
        · rw [if_neg hn] at hs
          cases hs
          exact .mismatched rfl h hn

/-! ## The growing tree follows the scan -/

namespace Growth

/-- The open elements by name and line. -/
def opened (g : Growth) : List (Text × Nat) := g.stack.map fun e => (e.name, e.line)

@[simp] theorem opened_place (g : Growth) (n : Node) : (g.place n).opened = g.opened := by
  unfold place opened
  cases g.stack with
  | nil => rfl
  | cons e es => rfl

@[simp] theorem pending_place (g : Growth) (n : Node) : (g.place n).pending = g.pending := by
  unfold place
  cases g.stack with
  | nil => rfl
  | cons e es => rfl

@[simp] theorem pending_flush (g : Growth) : g.flush.pending = none := by
  unfold flush
  cases hp : g.pending with
  | none => exact hp
  | some held =>
    simp only
    cases Text.collapse held.2 with
    | nil => rfl
    | cons c value => exact pending_place _ _

@[simp] theorem opened_flush (g : Growth) : g.flush.opened = g.opened := by
  unfold flush
  cases g.pending with
  | none => rfl
  | some held =>
    simp only
    cases Text.collapse held.2 with
    | nil => rfl
    | cons c value => exact opened_place _ _

@[simp] theorem opened_addText (g : Growth) (line : Nat) (chunk : Text) :
    (g.addText line chunk).opened = g.opened := by
  unfold addText
  cases g.pending <;> rfl

/-- One event moves the open elements as the scan does. -/
theorem scan_handle (g : Growth) (here : Located) (events : List Located) :
    scan g.opened (brackets (here :: events)) =
      (g.handle here).bind fun g' => scan g'.opened (brackets events) := by
  obtain ⟨line, event⟩ := here
  rw [brackets, List.filterMap_cons]
  cases event with
  | opening name attrs =>
    by_cases hv : isVoid name
    · simp only [bracket?, handle, hv, ↓reduceIte, Except.bind, opened_place, opened_flush]
      rfl
    · have hopened : ({ g.flush with stack := ⟨name, attrsOf attrs, [], line⟩ ::
          g.flush.stack } : Growth).opened = (name, line) :: g.opened :=
        congrArg (List.cons (name, line)) g.opened_flush
      simp only [bracket?, handle, hv, Bool.false_eq_true, ↓reduceIte, Except.bind, scan, hopened]
      rfl
  | empty name attrs =>
    simp only [bracket?, handle, Except.bind, opened_place, opened_flush]
    rfl
  | closing tag =>
    by_cases hv : isVoid tag
    · simp only [bracket?, handle, hv, ↓reduceIte, Except.bind, opened_flush]
      rfl
    · have hopened : g.flush.opened = g.opened := g.opened_flush
      simp only [bracket?, handle, hv, Bool.false_eq_true, ↓reduceIte]
      rw [← hopened]
      cases hs : g.flush.stack with
      | nil =>
        rw [opened, hs]
        rfl
      | cons e es =>
        rw [opened, hs, List.map_cons, scan]
        by_cases hn : e.name = tag
        · simp only [hn, ↓reduceIte, Except.bind, opened_place]
          rfl
        · simp only [hn, ↓reduceIte, Except.bind]
  | text chunk =>
    simp only [bracket?, handle, Except.bind, opened_addText]
    rfl
  | comment =>
    simp only [bracket?, handle, Except.bind, opened_flush]
    rfl
  | silent => rfl

/-- A run of events moves the open elements as the scan does. -/
theorem scan_handleAll (g : Growth) (events : List Located) :
    scan g.opened (brackets events) = (g.handleAll events).map opened := by
  induction events generalizing g with
  | nil => rfl
  | cons here events ih =>
    rw [scan_handle, handleAll]
    cases g.handle here with
    | error f => rfl
    | ok g' => exact ih g'

theorem finish_eq (g : Growth) :
    g.finish =
      match g.opened with
      | [] => .ok g.flush.placed
      | (name, line) :: _ => .error (.unclosed name line) := by
  rw [← opened_flush, opened, finish]
  cases g.flush.stack with
  | nil => rfl
  | cons e es => rfl

end Growth

/-- Whether a document grows is decided by the scan alone. -/
theorem grown_of_scan (events : List Located) :
    match scan [] (brackets events) with
    | .error f => grown events = .error f
    | .ok [] => ∃ nodes, grown events = .ok nodes
    | .ok ((name, line) :: _) => grown events = .error (.unclosed name line) := by
  have hscan := Growth.scan_handleAll {} events
  rw [show Growth.opened {} = [] from rfl] at hscan
  rw [hscan, grown]
  cases ({} : Growth).handleAll events with
  | error f => rfl
  | ok g =>
    simp only [Except.map, Except.bind, g.finish_eq]
    cases g.opened with
    | nil => exact ⟨_, rfl⟩
    | cons top stack => rfl

theorem exists_grown_iff (events : List Located) :
    (∃ nodes, grown events = .ok nodes) ↔ Balanced (brackets events) := by
  have h := grown_of_scan events
  constructor
  · rintro ⟨nodes, hg⟩
    cases hs : scan [] (brackets events) with
    | error f =>
      rw [hs, hg] at h
      cases h
    | ok stack =>
      cases stack with
      | nil => exact (unclosed_of_scan (.balanced .nil) hs).nil
      | cons top stack =>
        rw [hs, hg] at h
        cases h
  · intro hb
    have hs := hb.scan [] []
    rw [List.append_nil] at hs
    rw [hs] at h
    exact h

theorem grown_eq_error_iff (events : List Located) (f : NestingFault) :
    grown events = .error f ↔ Faulty (brackets events) f f.line f.message := by
  have h := grown_of_scan events
  constructor
  · intro hg
    cases hs : scan [] (brackets events) with
    | error f' =>
      rw [hs, hg] at h
      cases h
      exact faulty_of_scan (.balanced .nil) hs
    | ok stack =>
      have hopen := unclosed_of_scan (.balanced .nil) hs
      cases stack with
      | nil =>
        rw [hs, hg] at h
        obtain ⟨nodes, hn⟩ := h
        cases hn
      | cons top stack =>
        rw [hs, hg] at h
        cases h
        exact .unclosed hopen
  · intro hf
    cases hf with
    | unexpected split hb =>
      rw [split, hb.scan] at h
      exact h
    | mismatched split hu other =>
      rw [split, hu.scan, scan, if_neg other] at h
      exact h
    | unclosed hu =>
      have hs := hu.scan []
      rw [List.append_nil] at hs
      rw [hs] at h
      exact h

/-! ## The normal form of events -/

/-- A tree written out in one list. -/
inductive Mark where
  | enter (name : Text) (attrs : Attrs) (line : Nat)
  | leave (name : Text)
  | text (value : Text) (line : Nat)
  | stray (value : Text)

mutual

/-- A node written out, every element with its beginning and its end. -/
def Node.marks : Node → List Mark
  | .text value line => [.text value line]
  | .element name attrs children line =>
    .enter name attrs line :: (marksAll children ++ [.leave name])
  | .stray value => [.stray value]

def marksAll : List Node → List Mark
  | [] => []
  | n :: ns => n.marks ++ marksAll ns

end

/-- The attributes of a tag: each name once, where it is first mentioned, with
the last value given to it, and an empty one where none is given. -/
def settled (attrs : Markup.Attrs) : Attrs :=
  (attrs.map Prod.fst).eraseDups.map fun name =>
    (name, Table.lastValue name none (attrs.map fun (n, value) => (n, some (value.getD []))))

/-- The mark of the text collected so far, its runs of blanks collapsed. Blank
text leaves none. -/
def textMarks : Option (Nat × Text) → List Mark
  | none => []
  | some (line, text) => if text.collapse = [] then [] else [.text text.collapse line]

/-- The marks of a list of events after some text, which begins on the line of
its first chunk. Tags and comments end a text. A void or self-closing tag makes
a whole element, and the closing tag of a void element nothing. -/
def normalMarks (pending : Option (Nat × Text)) : List Located → List Mark
  | [] => textMarks pending
  | ⟨line, .opening name attrs⟩ :: events =>
    textMarks pending ++ .enter name (settled attrs) line ::
      ((if isVoid name then [.leave name] else []) ++ normalMarks none events)
  | ⟨line, .empty name attrs⟩ :: events =>
    textMarks pending ++ .enter name (settled attrs) line :: .leave name :: normalMarks none events
  | ⟨_, .closing name⟩ :: events =>
    textMarks pending ++ (if isVoid name then [] else [.leave name]) ++ normalMarks none events
  | ⟨line, .text chunk⟩ :: events =>
    match pending with
    | none => normalMarks (some (line, chunk)) events
    | some (first, text) => normalMarks (some (first, text ++ chunk)) events
  | ⟨_, .comment⟩ :: events => textMarks pending ++ normalMarks none events
  | ⟨_, .silent⟩ :: events => normalMarks pending events

theorem marksAll_append (ns ms : List Node) : marksAll (ns ++ ms) = marksAll ns ++ marksAll ms := by
  induction ns with
  | nil => rfl
  | cons n ns ih => rw [List.cons_append, marksAll, marksAll, ih, List.append_assoc]

theorem attrsOf_eq_settled (attrs : Markup.Attrs) : Growth.attrsOf attrs = settled attrs := by
  rw [Growth.attrsOf, Table.ofEntries_eq none, List.map_map]
  rfl

namespace Growth

/-- The beginning of an open element and its children so far. -/
def openMarks (e : Element) : List Mark := .enter e.name e.attrs e.line :: marksAll e.children

/-- A growing tree written out, without the ends of its open elements. -/
def marks (g : Growth) : List Mark := marksAll g.placed ++ g.stack.reverse.flatMap openMarks

theorem marks_place (g : Growth) (n : Node) : (g.place n).marks = g.marks ++ n.marks := by
  have hone : marksAll [n] = n.marks := List.append_nil _
  unfold place marks
  cases g.stack with
  | nil => simp [marksAll_append, hone]
  | cons e es => simp [openMarks, marksAll_append, hone]

theorem marks_flush (g : Growth) : g.flush.marks = g.marks ++ textMarks g.pending := by
  unfold flush
  cases g.pending with
  | none => exact (List.append_nil _).symm
  | some held =>
    obtain ⟨line, text⟩ := held
    simp only [textMarks]
    cases Text.collapse text with
    | nil => exact (List.append_nil _).symm
    | cons c value => exact marks_place _ _

theorem marks_push (g : Growth) (e : Element) :
    ({ g with stack := e :: g.stack } : Growth).marks = g.marks ++ openMarks e := by
  simp [marks]

/-- Putting the innermost element into its parent writes its end. -/
theorem marks_pop {g : Growth} {e : Element} {es : List Element} (h : g.stack = e :: es) :
    ({ g with stack := es }.place e.toNode).marks = g.marks ++ [.leave e.name] := by
  rw [marks_place]
  simp [marks, h, openMarks, Element.toNode, Node.marks]

/-- One event takes its marks from the events still to come into the tree. -/
theorem marks_handle {g g' : Growth} {here : Located} (h : g.handle here = .ok g')
    (events : List Located) :
    g.marks ++ normalMarks g.pending (here :: events) =
      g'.marks ++ normalMarks g'.pending events := by
  have hflush := g.marks_flush
  obtain ⟨line, event⟩ := here
  cases event with
  | opening name attrs =>
    by_cases hv : isVoid name
    · simp only [handle, hv, ↓reduceIte] at h
      cases h
      simp [normalMarks, hv, marks_place, hflush, Node.marks, marksAll, attrsOf_eq_settled]
    · simp only [handle, hv, Bool.false_eq_true, ↓reduceIte] at h
      cases h
      rw [marks_push, hflush, pending_flush, attrsOf_eq_settled]
      simp [normalMarks, hv, openMarks, marksAll]
  | empty name attrs =>
    simp only [handle] at h
    cases h
    simp [normalMarks, marks_place, hflush, Node.marks, marksAll, attrsOf_eq_settled]
  | closing tag =>
    by_cases hv : isVoid tag
    · simp only [handle, hv, ↓reduceIte] at h
      cases h
      simp [normalMarks, hv, hflush]
    · simp only [handle, hv, Bool.false_eq_true, ↓reduceIte] at h
      cases hs : g.flush.stack with
      | nil =>
        rw [hs] at h
        cases h
      | cons e es =>
        rw [hs] at h
        by_cases hn : e.name = tag
        · simp only [hn, ↓reduceIte] at h
          cases h
          rw [marks_pop hs, hflush, pending_place, pending_flush, hn]
          simp [normalMarks, hv]
        · simp only [hn, ↓reduceIte] at h
          cases h
  | text chunk =>
    simp only [handle, addText] at h
    cases hp : g.pending with
    | none =>
      rw [hp] at h
      cases h
      rfl
    | some held =>
      rw [hp] at h
      cases h
      rfl
  | comment =>
    cases h
    simp [normalMarks, hflush]
  | silent =>
    cases h
    rfl

/-- A run of events takes their marks into the tree. -/
theorem marks_handleAll {g g' : Growth} {events : List Located}
    (h : g.handleAll events = .ok g') :
    g.marks ++ normalMarks g.pending events = g'.flush.marks := by
  induction events generalizing g with
  | nil =>
    cases h
    exact (marks_flush _).symm
  | cons here events ih =>
    rw [handleAll] at h
    cases hstep : g.handle here with
    | error f =>
      rw [hstep] at h
      cases h
    | ok g₁ =>
      rw [hstep] at h
      rw [marks_handle hstep, ih h]

end Growth

theorem marks_of_grown {events : List Located} {nodes : List Node}
    (h : grown events = .ok nodes) : marksAll nodes = normalMarks none events := by
  rw [grown] at h
  cases hrun : ({} : Growth).handleAll events with
  | error f =>
    rw [hrun] at h
    cases h
  | ok g =>
    rw [hrun] at h
    have hmarks := Growth.marks_handleAll hrun
    change g.finish = _ at h
    rw [Growth.finish] at h
    cases hs : g.flush.stack with
    | nil =>
      rw [hs] at h
      cases h
      rw [Growth.marks, Growth.marks, hs] at hmarks
      simpa [marksAll] using hmarks.symm
    | cons e es =>
      rw [hs] at h
      cases h

/-! ## A tree can be read off its marks -/

/-- Nothing is left, or an element ends. -/
def Ends (rest : List Mark) : Prop := rest = [] ∨ ∃ name after, rest = .leave name :: after

/-- A node does not begin where an element ends. -/
theorem not_ends_marks (n : Node) (rest : List Mark) : ¬ Ends (n.marks ++ rest) := by
  intro h
  cases n with
  | text value line => rcases h with h | ⟨_, _, h⟩ <;> cases h
  | element name attrs children line => rcases h with h | ⟨_, _, h⟩ <;> cases h
  | stray value => rcases h with h | ⟨_, _, h⟩ <;> cases h

mutual

theorem marks_inj : ∀ {n m : Node} {rest rest' : List Mark},
    n.marks ++ rest = m.marks ++ rest' → n = m ∧ rest = rest'
  | .text value line, m, rest, rest', h => by
    cases m <;> cases h
    exact ⟨rfl, rfl⟩
  | .stray value, m, rest, rest', h => by
    cases m <;> cases h
    exact ⟨rfl, rfl⟩
  | .element name attrs children line, m, rest, rest', h => by
    cases m with
    | text value line => cases h
    | stray value => cases h
    | element name' attrs' children' line' =>
      simp only [Node.marks, List.cons_append, List.cons.injEq, Mark.enter.injEq,
        List.append_assoc, List.nil_append] at h
      obtain ⟨⟨rfl, rfl, rfl⟩, hbody⟩ := h
      obtain ⟨hchildren, hrest⟩ := marksAll_inj (Or.inr ⟨_, _, rfl⟩) (Or.inr ⟨_, _, rfl⟩) hbody
      exact ⟨by rw [hchildren], (List.cons.inj hrest).2⟩

theorem marksAll_inj : ∀ {ns ms : List Node} {rest rest' : List Mark}, Ends rest → Ends rest' →
    marksAll ns ++ rest = marksAll ms ++ rest' → ns = ms ∧ rest = rest'
  | [], [], rest, rest', _, _, h => ⟨rfl, h⟩
  | [], m :: ms, rest, rest', hends, _, h => by
    change rest = _ at h
    rw [h, marksAll, List.append_assoc] at hends
    exact absurd hends (not_ends_marks m _)
  | n :: ns, [], rest, rest', _, hends, h => by
    change _ = rest' at h
    rw [← h, marksAll, List.append_assoc] at hends
    exact absurd hends (not_ends_marks n _)
  | n :: ns, m :: ms, rest, rest', hends, hends', h => by
    rw [marksAll, marksAll, List.append_assoc, List.append_assoc] at h
    obtain ⟨hnode, htail⟩ := marks_inj h
    obtain ⟨hnodes, hrest⟩ := marksAll_inj hends hends' htail
    exact ⟨by rw [hnode, hnodes], hrest⟩

end

/-- Growing a document from events: it succeeds where the tags balance, it fails
at the first closing tag that does not fit and else at the innermost element
left open, and it makes the one document that is, written out again, the events
in normal form. -/
theorem grown_iff (events : List Located) :
    ((∃ nodes, grown events = .ok nodes) ↔ Balanced (brackets events)) ∧
    (∀ f : NestingFault,
      grown events = .error f ↔ Faulty (brackets events) f f.line f.message) ∧
    (∀ nodes : List Node, grown events = .ok nodes ↔
      Balanced (brackets events) ∧ marksAll nodes = normalMarks none events) := by
  refine ⟨exists_grown_iff events, grown_eq_error_iff events, fun nodes => ⟨fun h => ?_, ?_⟩⟩
  · exact ⟨(exists_grown_iff events).mp ⟨nodes, h⟩, marks_of_grown h⟩
  · rintro ⟨hb, hmarks⟩
    obtain ⟨grownNodes, hg⟩ := (exists_grown_iff events).mpr hb
    have hsame : marksAll nodes ++ [] = marksAll grownNodes ++ [] := by
      rw [hmarks, marks_of_grown hg]
    rw [hg, (marksAll_inj (Or.inl rfl) (Or.inl rfl) hsame).1]

end JsxTemplate
