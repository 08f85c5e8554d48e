import JsxTemplate.Jsx.Render
import Mathlib.Data.List.Basic

/-!
# Rendering as one walk of the tree

Rendering recurses through a tree and passes an indentation and a flag down.
Here the same text is written by one walk from left to right. The walk keeps a
list of visits still to make; it writes a fragment where it enters a node and,
when the node has children, one where it leaves it. A fragment depends on the
node and on its depth only, and on whether its parent is a plain element.
-/

namespace JsxTemplate

mutual

/-- The number of nodes at a node and below it. -/
def Node.count : Node → Nat
  | .element _ _ children _ => 1 + countAll children
  | .text _ _ => 1
  | .stray _ => 1

def countAll : List Node → Nat
  | [] => 0
  | n :: ns => n.count + countAll ns

end

theorem Node.count_pos (n : Node) : 0 < n.count := by
  cases n with
  | element name attrs children line =>
    rw [Node.count]
    omega
  | text value line => exact Nat.one_pos
  | stray value => exact Nat.one_pos

mutual

/-- A node and all nodes below it with their depths, parents before children. -/
def Node.preorder (depth : Nat) : Node → List (Nat × Node)
  | .element name attrs children line =>
    (depth, .element name attrs children line) :: preorderAll (depth + 1) children
  | .text value line => [(depth, .text value line)]
  | .stray value => [(depth, .stray value)]

def preorderAll (depth : Nat) : List Node → List (Nat × Node)
  | [] => []
  | n :: ns => n.preorder depth ++ preorderAll depth ns

end

mutual

/-- The elements with children at a node and below it, children before parents. -/
def Node.postorder (depth : Nat) : Node → List (Nat × Element)
  | .element name attrs children line =>
    postorderAll (depth + 1) children ++
      if children.isEmpty then [] else [(depth, ⟨name, attrs, children, line⟩)]
  | .text _ _ => []
  | .stray _ => []

def postorderAll (depth : Nat) : List Node → List (Nat × Element)
  | [] => []
  | n :: ns => n.postorder depth ++ postorderAll depth ns

end

end JsxTemplate

namespace JsxTemplate.Jsx

open Binding

/-- A visit of the walk. `braced` says that the node's parent is a plain element. -/
inductive Visit where
  | enter (depth : Nat) (braced : Bool) (n : Node)
  | leave (depth : Nat) (braced : Bool) (e : Element)

namespace Visit

/-- The visits that a visit calls for: those of the children, then the way out. -/
def next : Visit → List Visit
  | .enter depth braced (.element name attrs (child :: children) line) =>
    (child :: children).map (.enter (depth + 1) (name ≠ controlName)) ++
      [.leave depth braced ⟨name, attrs, child :: children, line⟩]
  | _ => []

def weight : Visit → Nat
  | .enter _ _ n => 2 * n.count
  | .leave .. => 1

/-- The node that is entered, and its depth. -/
def entered? : Visit → Option (Nat × Node)
  | .enter depth _ n => some (depth, n)
  | .leave .. => none

/-- The element that is left, and its depth. -/
def left? : Visit → Option (Nat × Element)
  | .enter .. => none
  | .leave depth _ e => some (depth, e)

def weightAll : List Visit → Nat
  | [] => 0
  | v :: vs => v.weight + weightAll vs

theorem weightAll_append (vs ws : List Visit) :
    weightAll (vs ++ ws) = weightAll vs + weightAll ws := by
  induction vs with
  | nil => exact (Nat.zero_add _).symm
  | cons v vs ih => rw [List.cons_append, weightAll, weightAll, ih, Nat.add_assoc]

theorem weight_enter_children (depth : Nat) (braced : Bool) (children : List Node) :
    weightAll (children.map (Visit.enter depth braced)) = 2 * countAll children := by
  induction children with
  | nil => rfl
  | cons n ns ih =>
    rw [List.map_cons, weightAll, ih, weight, countAll]
    omega

theorem weight_next (v : Visit) : weightAll v.next < v.weight := by
  fun_cases next v with
  | case1 depth braced name attrs child children line =>
    have h := weight_enter_children (depth + 1) (name ≠ controlName) (child :: children)
    rw [weightAll_append, h]
    simp only [weightAll, weight, Node.count]
    omega
  | case2 v =>
    cases v with
    | enter depth braced n =>
      have := n.count_pos
      rw [weightAll, weight]
      omega
    | leave => exact Nat.zero_lt_one

end Visit

/-- Makes the visits of a list in order, each followed by those it calls for. -/
def walk : List Visit → List Visit
  | [] => []
  | v :: vs => v :: walk (v.next ++ vs)
termination_by vs => Visit.weightAll vs
decreasing_by
  have := v.weight_next
  rw [Visit.weightAll_append, Visit.weightAll]
  omega

/-! ## What is written on the way -/

namespace Renderer

variable (r : Renderer)

/-- The indentation of a node at a depth below a node indented by `indent`. -/
def pad (indent : Text) (depth : Nat) : Text := (List.replicate depth r.unit).flatten ++ indent

/-- The text written at a visit. -/
def fragment (indent : Text) : Visit → Except RenderFault Text
  | .enter depth _ (.text value _) => .ok (r.pad indent depth ++ resolveText value ++ "\n")
  | .enter depth braced (.element name attrs children line) =>
    if name = controlName then do
      let mark : Text := if braced then ['{', ' '] else []
      match ← Element.control ⟨name, attrs, children, line⟩ with
      | .conditional test =>
        .ok (r.pad indent depth ++ mark ++ "(" ++ unwrap test ++ ") && (\n")
      | .loop array item =>
        .ok (r.pad indent depth ++ mark ++ unwrap array ++ ".map(" ++ unwrap item ++ " => (\n")
    else do
      let props ← r.props name attrs
      .ok (r.pad indent depth ++ "<" ++ r.tagName name ++ props ++
        if children.isEmpty then " />\n" else ">\n")
  | .enter _ _ (.stray _) => .error .stray
  | .leave depth braced e =>
    if e.name = controlName then do
      let mark : Text := if braced then [' ', '}'] else []
      match ← e.control with
      | .conditional _ => .ok (r.pad indent depth ++ ")" ++ mark ++ "\n")
      | .loop _ _ => .ok (r.pad indent depth ++ "))" ++ mark ++ "\n")
    else .ok (r.pad indent depth ++ "</" ++ r.tagName e.name ++ ">\n")

/-- The fragments of some visits one after the other. -/
def write (indent : Text) (visits : List Visit) : Except RenderFault Text :=
  (visits.mapM (r.fragment indent)).map List.flatten

theorem write_append (indent : Text) (xs ys : List Visit) :
    r.write indent (xs ++ ys) =
      (r.write indent xs).bind fun a => (r.write indent ys).map (a ++ ·) := by
  unfold write
  rw [List.mapM_append]
  cases xs.mapM (r.fragment indent) with
  | error f => rfl
  | ok a =>
    cases ys.mapM (r.fragment indent) with
    | error f => rfl
    | ok b => exact congrArg Except.ok List.flatten_append

theorem write_singleton (indent : Text) (v : Visit) : r.write indent [v] = r.fragment indent v := by
  unfold write
  rw [List.mapM_cons]
  cases r.fragment indent v with
  | error f => rfl
  | ok a => exact congrArg Except.ok (List.append_nil a)

theorem pad_succ (indent : Text) (depth : Nat) :
    r.unit ++ r.pad indent depth = r.pad indent (depth + 1) := by
  rw [pad, pad, List.replicate_succ, List.flatten_cons, List.append_assoc]

end Renderer

/-! ## The walk of one node

The visits of a node, of its children and of theirs stand together in the walk,
before whatever else is still to visit. -/

mutual

/-- The visits of a node and of all nodes below it. -/
def tour (depth : Nat) (braced : Bool) : Node → List Visit
  | .element name attrs children line =>
    .enter depth braced (.element name attrs children line) ::
      (tourAll (depth + 1) (name ≠ controlName) children ++
        if children.isEmpty then [] else [.leave depth braced ⟨name, attrs, children, line⟩])
  | .text value line => [.enter depth braced (.text value line)]
  | .stray value => [.enter depth braced (.stray value)]

def tourAll (depth : Nat) (braced : Bool) : List Node → List Visit
  | [] => []
  | n :: ns => tour depth braced n ++ tourAll depth braced ns

end

theorem walk_leave (depth : Nat) (braced : Bool) (e : Element) (vs : List Visit) :
    walk (.leave depth braced e :: vs) = .leave depth braced e :: walk vs := by
  rw [walk]
  rfl

mutual

theorem walk_enter (depth : Nat) (braced : Bool) (vs : List Visit) :
    ∀ n : Node, walk (.enter depth braced n :: vs) = tour depth braced n ++ walk vs
  | .text value line => by
    rw [walk, tour]
    rfl
  | .stray value => by
    rw [walk, tour]
    rfl
  | .element name attrs [] line => by
    rw [walk, tour, tourAll]
    rfl
  | .element name attrs (child :: children) line => by
    rw [walk, tour, Visit.next, List.append_assoc, List.singleton_append,
      walk_enterAll _ _ _ (child :: children), walk_leave]
    simp only [List.isEmpty_cons, Bool.false_eq_true, ↓reduceIte, List.cons_append,
      List.append_assoc, List.nil_append]

theorem walk_enterAll (depth : Nat) (braced : Bool) (vs : List Visit) :
    ∀ ns : List Node,
      walk (ns.map (Visit.enter depth braced) ++ vs) = tourAll depth braced ns ++ walk vs
  | [] => by
    rw [tourAll]
    rfl
  | n :: ns => by
    rw [List.map_cons, List.cons_append, walk_enter _ _ _ n, walk_enterAll _ _ _ ns, tourAll,
      List.append_assoc]

end

/-- A walk that starts at one node makes just the visits of its tour. -/
theorem walk_singleton (depth : Nat) (braced : Bool) (n : Node) :
    walk [.enter depth braced n] = tour depth braced n := by
  rw [walk_enter, walk, List.append_nil]

mutual

theorem entered_tour (depth : Nat) (braced : Bool) :
    ∀ n : Node, (tour depth braced n).filterMap Visit.entered? = n.preorder depth
  | .text value line => rfl
  | .stray value => rfl
  | .element name attrs children line => by
    rw [tour, Node.preorder, List.filterMap_cons, List.filterMap_append, entered_tourAll]
    cases children with
    | nil => rfl
    | cons child children => exact congrArg (List.cons _) (List.append_nil _)

theorem entered_tourAll (depth : Nat) (braced : Bool) :
    ∀ ns : List Node, (tourAll depth braced ns).filterMap Visit.entered? = preorderAll depth ns
  | [] => rfl
  | n :: ns => by
    rw [tourAll, List.filterMap_append, entered_tour, entered_tourAll, preorderAll]

end

mutual

theorem left_tour (depth : Nat) (braced : Bool) :
    ∀ n : Node, (tour depth braced n).filterMap Visit.left? = n.postorder depth
  | .text value line => rfl
  | .stray value => rfl
  | .element name attrs children line => by
    rw [tour, Node.postorder, List.filterMap_cons, List.filterMap_append, left_tourAll]
    cases children <;> rfl

theorem left_tourAll (depth : Nat) (braced : Bool) :
    ∀ ns : List Node, (tourAll depth braced ns).filterMap Visit.left? = postorderAll depth ns
  | [] => rfl
  | n :: ns => by
    rw [tourAll, List.filterMap_append, left_tour, left_tourAll, postorderAll]

end

/-! ## The text of the walk -/

/-- A control has a child, so that the walk leaves what it enters. -/
theorem children_of_control {e : Element} {c : Control} (h : e.control = .ok c) :
    e.children.isEmpty = false := by
  unfold Element.control at h
  by_cases hlen : e.children.length = 1
  · cases hc : e.children with
    | nil => simp [hc] at hlen
    | cons child children => rfl
  · simp only [ne_eq, hlen, not_false_eq_true, ↓reduceIte] at h
    cases h

namespace Renderer

variable (r : Renderer)

/-- The fragments around a control's child, in one piece with it, are its block. -/
theorem control_eq_write (indent : Text) (depth : Nat) (braced : Bool) (attrs : Attrs)
    (children : List Node) (line : Nat) (inner : List Visit) :
    controlBlock (r.pad indent depth) (!braced) ⟨controlName, attrs, children, line⟩
        (r.write indent inner) =
      r.write indent (.enter depth braced (.element controlName attrs children line) ::
        (inner ++ if children.isEmpty then []
          else [.leave depth braced ⟨controlName, attrs, children, line⟩])) := by
  rw [← List.singleton_append, write_append, write_singleton, write_append]
  cases hc : Element.control ⟨controlName, attrs, children, line⟩ with
  | error f =>
    simp only [controlBlock, fragment, hc, ↓reduceIte]
    rfl
  | ok c =>
    have hleave : children.isEmpty = false := children_of_control hc
    rw [hleave, if_neg Bool.false_ne_true, write_singleton]
    cases r.write indent inner with
    | error f =>
      simp only [controlBlock, fragment, hc, ↓reduceIte]
      cases c <;> rfl
    | ok body =>
      simp only [controlBlock, fragment, hc, ↓reduceIte]
      cases c <;> cases braced <;>
        simp only [controlLines, bind, Except.bind, pure, Except.pure, Except.map,
          Bool.not_true, Bool.not_false, Bool.false_eq_true, ↓reduceIte, List.append_assoc,
          List.nil_append]

/-- The fragments of a plain element, in one piece with its children. -/
theorem element_eq_write (indent : Text) (depth : Nat) (braced : Bool) {name : Text}
    (hname : name ≠ controlName) (attrs : Attrs) (children : List Node) (line : Nat)
    (inner : List Visit) (hinner : children = [] → inner = []) :
    r.element (r.pad indent depth) ⟨name, attrs, children, line⟩ (r.write indent inner) =
      r.write indent (.enter depth braced (.element name attrs children line) ::
        (inner ++
          if children.isEmpty then []
          else [.leave depth braced ⟨name, attrs, children, line⟩])) := by
  rw [← List.singleton_append, write_append, write_singleton, write_append]
  simp only [element, fragment, hname, ↓reduceIte]
  cases r.props name attrs with
  | error f => rfl
  | ok props =>
    cases children with
    | nil =>
      rw [hinner rfl]
      simp only [bind, Except.bind, pure, Except.pure, Except.map, List.isEmpty_nil, ↓reduceIte,
        write, List.mapM_nil, List.append_nil, List.append_assoc, List.flatten_nil]
    | cons child children =>
      simp only [List.isEmpty_cons, Bool.false_eq_true, ↓reduceIte, write_singleton]
      cases r.write indent inner with
      | error f => rfl
      | ok body =>
        simp only [fragment, hname, ↓reduceIte, bind, Except.bind, pure, Except.pure, Except.map,
          List.append_assoc]

mutual

theorem node_eq_write (indent : Text) (depth : Nat) (braced : Bool) :
    ∀ n : Node, r.node (r.pad indent depth) (!braced) n = r.write indent (tour depth braced n)
  | .text value line => by
    rw [node, tour, write_singleton]
    rfl
  | .stray value => by
    rw [node, tour, write_singleton]
    rfl
  | .element name attrs children line => by
    rw [node, tour, pad_succ]
    by_cases hname : name = controlName
    · subst hname
      have ih : r.nodes (r.pad indent (depth + 1)) true children = _ :=
        nodes_eq_write indent (depth + 1) false children
      rw [if_pos rfl, ih, control_eq_write]
      simp only [ne_eq, not_true_eq_false, decide_false]
    · have ih : r.nodes (r.pad indent (depth + 1)) false children = _ :=
        nodes_eq_write indent (depth + 1) true children
      rw [if_neg hname, ih, element_eq_write r indent depth braced hname]
      · simp only [ne_eq, hname, not_false_eq_true, decide_true]
      · rintro rfl
        rfl

theorem nodes_eq_write (indent : Text) (depth : Nat) (braced : Bool) :
    ∀ ns : List Node,
      r.nodes (r.pad indent depth) (!braced) ns = r.write indent (tourAll depth braced ns)
  | [] => rfl
  | n :: ns => by
    rw [nodes, node_eq_write indent depth braced n, nodes_eq_write indent depth braced ns, tourAll,
      write_append]
    rfl

end

/-- Rendering a node writes the fragments of one walk, which enters every node
below it once, parents first, and leaves every element with children once. -/
theorem node_eq_walk (indent : Text) (direct : Bool) (n : Node) :
    let visits := walk [.enter 0 (!direct) n]
    r.node indent direct n = (visits.mapM (r.fragment indent)).map List.flatten ∧
      visits.filterMap Visit.entered? = n.preorder 0 ∧
      visits.filterMap Visit.left? = n.postorder 0 := by
  simp only [walk_singleton]
  refine ⟨?_, entered_tour _ _ _, left_tour _ _ _⟩
  have h := r.node_eq_write indent 0 (!direct) n
  rwa [Bool.not_not] at h

end Renderer

end JsxTemplate.Jsx
