import JsxTemplate.Compile
import JsxTemplate.Proofs.Faults

/-!
# Generated code as a tree

What is rendered is the printed form of a tree of code, in which texts and elements
stand apart from the operands of conditions and loops. An operand is an expression,
and so is what a component returns. The operands of the code are those of the
template, in document order: a text among them is printed as it is.
-/

namespace JsxTemplate

open Jsx Binding

/-! ## Operands of a template -/

/-- The nodes that a node renders where an expression is called for. -/
def Node.governed : Node → List Node
  | .element name _ children _ => if name = controlName then children else []
  | .text _ _ => []
  | .stray _ => []

/-- The children of the controls at a node and below it, in document order. -/
def Node.operands (n : Node) : List Node := n.subtree.flatMap Node.governed

def Node.isElement (n : Node) : Bool := n.element?.isSome

/-- The node itself is an element, and so is each child of a control at or below it. -/
structure Node.ElementOperands (first : Node) : Prop where
  returned : first.isElement
  controlled : ∀ {attrs : Attrs} {children : List Node} {line : Nat},
    .element controlName attrs children line ∈ first.subtree →
      ∀ child ∈ children, child.isElement

mutual

theorem Node.map_snd_preorder (depth : Nat) : ∀ n : Node, (n.preorder depth).map Prod.snd = n.subtree
  | .text value line => rfl
  | .stray value => rfl
  | .element name attrs children line => by
    rw [Node.subtree, Node.preorder, Node.preorder, List.map_cons, List.map_cons,
      map_snd_preorderAll (depth + 1) children, map_snd_preorderAll (0 + 1) children]

theorem map_snd_preorderAll (depth : Nat) :
    ∀ ns : List Node, (preorderAll depth ns).map Prod.snd = ns.flatMap Node.subtree
  | [] => rfl
  | n :: ns => by
    rw [preorderAll, List.map_append, List.flatMap_cons, n.map_snd_preorder depth,
      map_snd_preorderAll depth ns]

end

theorem Node.subtree_element (name : Text) (attrs : Attrs) (children : List Node) (line : Nat) :
    (Node.element name attrs children line).subtree =
      .element name attrs children line :: children.flatMap Node.subtree := by
  rw [Node.subtree, Node.preorder, List.map_cons, map_snd_preorderAll]

theorem Node.operands_element (name : Text) (attrs : Attrs) (children : List Node) (line : Nat) :
    (Node.element name attrs children line).operands =
      (if name = controlName then children else []) ++ children.flatMap Node.operands := by
  rw [Node.operands, Node.subtree_element, List.flatMap_cons, List.flatMap_assoc]
  rfl

theorem Node.elementOperands_iff {first : Node} :
    first.ElementOperands ↔ ∀ n ∈ first :: first.operands, n.isElement := by
  rw [List.forall_mem_cons]
  constructor
  · intro h
    refine ⟨h.returned, fun n hn => ?_⟩
    obtain ⟨m, hm, hgoverned⟩ := List.mem_flatMap.mp hn
    cases m with
    | text value line => cases hgoverned
    | stray value => cases hgoverned
    | element name attrs children line =>
      rw [Node.governed] at hgoverned
      split at hgoverned
      · next hname =>
        subst hname
        exact h.controlled hm n hgoverned
      · cases hgoverned
  · rintro ⟨hfirst, hoperands⟩
    refine ⟨hfirst, fun {attrs children line} hm child hchild => ?_⟩
    apply hoperands
    refine List.mem_flatMap.mpr ⟨_, hm, ?_⟩
    rw [Node.governed, if_pos rfl]
    exact hchild

namespace Jsx

/-! ## Code -/

/-- Generated code. -/
inductive Code where
  /-- A line of text. -/
  | text (value : Text)
  /-- A tag with its props, each after a space, and what stands between the tags. -/
  | element (tag props : Text) (children : List Code)
  | conditional (test : Text) (operand : Code)
  | loop (array item : Text) (operand : Code)

namespace Code

/-- An expression, in braces unless it is `direct`: already in the place of one. -/
def placed (direct : Bool) (expression : Text) : Text :=
  if direct then expression else braced expression

mutual

/-- The lines of code at an indentation. -/
def print (unit indent : Text) (direct : Bool) : Code → Text
  | .text value => indent ++ value ++ "\n"
  | .element tag props [] => indent ++ "<" ++ tag ++ props ++ " />\n"
  | .element tag props (child :: children) =>
    indent ++ "<" ++ tag ++ props ++ ">\n" ++
      printAll unit (unit ++ indent) false (child :: children) ++ indent ++ "</" ++ tag ++ ">\n"
  | .conditional test operand =>
    indent ++ placed direct ("(" ++ test ++ ") && (\n" ++
      operand.print unit (unit ++ indent) true ++ indent ++ ")") ++ "\n"
  | .loop array item operand =>
    indent ++ placed direct (array ++ ".map(" ++ item ++ " => (\n" ++
      operand.print unit (unit ++ indent) true ++ indent ++ "))") ++ "\n"

def printAll (unit indent : Text) (direct : Bool) : List Code → Text
  | [] => []
  | c :: cs => c.print unit indent direct ++ printAll unit indent direct cs

end

mutual

/-- The operands of the conditions and loops in code, in document order. -/
def operands : Code → List Code
  | .text _ => []
  | .element _ _ children => operandsAll children
  | .conditional _ operand => operand :: operand.operands
  | .loop _ _ operand => operand :: operand.operands

def operandsAll : List Code → List Code
  | [] => []
  | c :: cs => c.operands ++ operandsAll cs

end

def isText : Code → Bool
  | .text _ => true
  | _ => false

/-- A control around its operand. -/
def ofControl : Control → Code → Code
  | .conditional test, operand => .conditional (unwrap test) operand
  | .loop array item, operand => .loop (unwrap array) (unwrap item) operand

end Code

namespace Renderer

variable (r : Renderer)

mutual

/-- The code that a node is rendered as. -/
def code : Node → Except RenderFault Code
  | .text value _ => .ok (.text (resolveText value))
  | .element name attrs children line =>
    if name = controlName then do
      let c ← Element.control ⟨name, attrs, children, line⟩
      match ← codeAll children with
      | [operand] => .ok (.ofControl c operand)
      -- an element with another number of children is no control
      | _ => .error .stray
    else do
      let props ← r.props name attrs
      let children ← codeAll children
      .ok (.element (r.tagName name) props children)
  | .stray _ => .error .stray

def codeAll : List Node → Except RenderFault (List Code)
  | [] => .ok []
  | n :: ns => do
    let first ← code n
    let others ← codeAll ns
    .ok (first :: others)

end

/-- What the code of a node can be. -/
inductive Coded : Node → Code → Prop
  | text {value : Text} {line : Nat} : Coded (.text value line) (.text (resolveText value))
  | control {attrs : Attrs} {child : Node} {line : Nat} {c : Control} {operand : Code}
    (hcontrol : Element.control ⟨controlName, attrs, [child], line⟩ = .ok c)
    (hoperand : r.code child = .ok operand) :
    Coded (.element controlName attrs [child] line) (.ofControl c operand)
  | element {name : Text} {attrs : Attrs} {children : List Node} {line : Nat} {props : Text}
    {codes : List Code} (hname : name ≠ controlName) (hprops : r.props name attrs = .ok props)
    (hchildren : r.codeAll children = .ok codes) :
    Coded (.element name attrs children line) (.element (r.tagName name) props codes)

/-- A control has one child. -/
theorem exists_child_of_control {e : Element} {c : Control} (h : e.control = .ok c) :
    ∃ child, e.children = [child] := by
  by_cases hcount : e.children.length = 1
  · exact List.length_eq_one_iff.mp hcount
  · rw [Element.control_of_count hcount] at h
    cases h

theorem code_control {attrs : Attrs} {child : Node} {line : Nat} {c : Control}
    (h : Element.control ⟨controlName, attrs, [child], line⟩ = .ok c) :
    r.code (.element controlName attrs [child] line) = (r.code child).map (.ofControl c) := by
  rw [code, if_pos rfl, h, codeAll, codeAll]
  cases r.code child <;> rfl

theorem code_element {name : Text} (hname : name ≠ controlName) (attrs : Attrs)
    (children : List Node) (line : Nat) :
    r.code (.element name attrs children line) =
      (r.props name attrs).bind fun props =>
        (r.codeAll children).map (.element (r.tagName name) props) := by
  rw [code, if_neg hname]
  cases r.props name attrs with
  | error f => rfl
  | ok props => cases r.codeAll children <;> rfl

theorem coded_of_code {n : Node} {c : Code} (h : r.code n = .ok c) : r.Coded n c := by
  cases n with
  | text value line =>
    cases h
    exact .text
  | stray value => cases h
  | element name attrs children line =>
    by_cases hname : name = controlName
    · subst hname
      cases hc : Element.control ⟨controlName, attrs, children, line⟩ with
      | error f =>
        rw [code, if_pos rfl, hc] at h
        cases h
      | ok control =>
        obtain ⟨child, rfl⟩ : ∃ child, children = [child] := exists_child_of_control hc
        rw [r.code_control hc] at h
        cases hchild : r.code child with
        | error f =>
          rw [hchild] at h
          cases h
        | ok operand =>
          rw [hchild] at h
          cases h
          exact .control hc hchild
    · rw [r.code_element hname] at h
      cases hprops : r.props name attrs with
      | error f =>
        rw [hprops] at h
        cases h
      | ok props =>
        cases hcodes : r.codeAll children with
        | error f =>
          rw [hprops, hcodes] at h
          cases h
        | ok codes =>
          rw [hprops, hcodes] at h
          cases h
          exact .element hname hprops hcodes

theorem codeAll_cons_eq_ok {n : Node} {ns : List Node} {codes : List Code}
    (h : r.codeAll (n :: ns) = .ok codes) :
    ∃ first others, r.code n = .ok first ∧ r.codeAll ns = .ok others ∧ codes = first :: others := by
  rw [codeAll] at h
  cases hfirst : r.code n with
  | error f =>
    rw [hfirst] at h
    cases h
  | ok first =>
    cases hothers : r.codeAll ns with
    | error f =>
      rw [hfirst, hothers] at h
      cases h
    | ok others =>
      rw [hfirst, hothers] at h
      cases h
      exact ⟨first, others, rfl, rfl, rfl⟩

/-! ## Rendering prints code -/

theorem controlBlock_eq_print (indent : Text) (direct : Bool) {e : Element} {c : Control}
    (h : e.control = .ok c) (operand : Except RenderFault Code) :
    controlBlock indent direct e
        (operand.map (Code.print r.unit (r.unit ++ indent) true)) =
      operand.map fun operand => (Code.ofControl c operand).print r.unit indent direct := by
  rw [controlBlock, h]
  cases operand with
  | error f => rfl
  | ok operand =>
    cases c <;> cases direct <;>
      simp [controlLines, Except.map, bind, Except.bind, pure, Except.pure, Code.ofControl,
        Code.print, Code.placed, braced]

theorem map_printAll_singleton (indent : Text) (direct : Bool) (n : Node) :
    (r.codeAll [n]).map (Code.printAll r.unit indent direct) =
      (r.code n).map (Code.print r.unit indent direct) := by
  rw [codeAll, codeAll]
  cases r.code n with
  | error f => rfl
  | ok c => exact congrArg Except.ok (List.append_nil _)

theorem element_eq_print (indent : Text) (direct : Bool) {e : Element} {props : Text}
    (hprops : r.props e.name e.attrs = .ok props) :
    r.element indent e
        ((r.codeAll e.children).map (Code.printAll r.unit (r.unit ++ indent) false)) =
      (r.codeAll e.children).map fun codes =>
        (Code.element (r.tagName e.name) props codes).print r.unit indent direct := by
  rw [element, hprops]
  cases hchildren : e.children with
  | nil => rfl
  | cons child children =>
    cases hcodes : r.codeAll (child :: children) with
    | error f => rfl
    | ok codes =>
      obtain ⟨first, others, -, -, rfl⟩ := r.codeAll_cons_eq_ok hcodes
      rfl

mutual

/-- Rendering prints the code of a node. -/
theorem node_eq_print (indent : Text) (direct : Bool) :
    ∀ n : Node, r.node indent direct n = (r.code n).map (Code.print r.unit indent direct)
  | .text value line => rfl
  | .stray value => rfl
  | .element name attrs children line => by
    rw [node]
    by_cases hname : name = controlName
    · subst hname
      rw [if_pos rfl]
      cases hc : Element.control ⟨controlName, attrs, children, line⟩ with
      | error f =>
        rw [code, if_pos rfl, controlBlock, hc]
        rfl
      | ok c =>
        obtain ⟨child, rfl⟩ : ∃ child, children = [child] := exists_child_of_control hc
        rw [nodes_eq_print _ true [child], map_printAll_singleton, controlBlock_eq_print r _ _ hc,
          r.code_control hc]
        cases r.code child <;> rfl
    · rw [if_neg hname, nodes_eq_print _ false children, r.code_element hname]
      cases hprops : r.props name attrs with
      | error f =>
        rw [element, hprops]
        rfl
      | ok props =>
        have hprint := r.element_eq_print indent direct (e := ⟨name, attrs, children, line⟩) hprops
        refine hprint.trans ?_
        cases r.codeAll children <;> rfl

theorem nodes_eq_print (indent : Text) (direct : Bool) :
    ∀ ns : List Node,
      r.nodes indent direct ns = (r.codeAll ns).map (Code.printAll r.unit indent direct)
  | [] => rfl
  | n :: ns => by
    rw [nodes, codeAll, node_eq_print indent direct n, nodes_eq_print indent direct ns]
    cases r.code n with
    | error f => rfl
    | ok first =>
      cases r.codeAll ns with
      | error f => rfl
      | ok others => rfl

end

/-- What a component returns: the code of the template's first node, in parentheses. -/
theorem component_eq_ok {root : Element} {text : Text} (h : r.component root = .ok text) :
    ∃ first others code, root.children = first :: others ∧ r.code first = .ok code ∧
      text = r.unit ++ "return (\n" ++ code.print r.unit (r.unit ++ r.unit) true ++ r.unit ++
        ");\n" := by
  unfold component at h
  cases hchildren : root.children with
  | nil =>
    rw [hchildren] at h
    cases h
  | cons first others =>
    rw [hchildren] at h
    simp only [node_eq_print] at h
    cases hcode : r.code first with
    | error f =>
      rw [hcode] at h
      cases h
    | ok code =>
      rw [hcode] at h
      cases h
      exact ⟨first, others, code, rfl, hcode, rfl⟩

/-! ## Operands -/

mutual

theorem map_code_operands :
    ∀ (n : Node) {c : Code}, r.code n = .ok c → n.operands.map r.code = c.operands.map .ok
  | .text value line, c, h => by
    cases h
    rfl
  | .stray value, c, h => by cases h
  | .element name attrs children line, c, h => by
    rw [Node.operands_element]
    cases r.coded_of_code h with
    | @control _ child _ c operand hcontrol hoperand =>
      have ih := map_code_operands child hoperand
      have hnext : (Code.ofControl c operand).operands = operand :: operand.operands := by
        cases c <;> rw [Code.ofControl, Code.operands]
      rw [hnext, if_pos rfl, List.singleton_append, List.flatMap_singleton, List.map_cons,
        List.map_cons, hoperand, ih]
    | element hname hprops hchildren =>
      rw [if_neg hname, List.nil_append, map_code_operandsAll children hchildren, Code.operands]

theorem map_code_operandsAll :
    ∀ (ns : List Node) {codes : List Code}, r.codeAll ns = .ok codes →
      (ns.flatMap Node.operands).map r.code = (Code.operandsAll codes).map .ok
  | [], codes, h => by
    cases h
    rfl
  | n :: ns, codes, h => by
    obtain ⟨first, others, hfirst, hothers, rfl⟩ := r.codeAll_cons_eq_ok h
    rw [List.flatMap_cons, List.map_append, map_code_operands n hfirst,
      map_code_operandsAll ns hothers, Code.operandsAll, List.map_append]

end

theorem isText_of_code {n : Node} {c : Code} (h : r.code n = .ok c) :
    c.isText = false ↔ n.isElement := by
  cases r.coded_of_code h with
  | text => exact iff_of_false nofun nofun
  | @control _ _ _ c _ _ _ =>
    refine iff_of_true ?_ rfl
    cases c <;> rfl
  | element _ _ _ => exact iff_of_true rfl rfl

end Renderer

namespace Code

/-- A text with something in parentheses, on lines of its own. -/
def InParentheses (unit : Text) (c : Code) (text : Text) : Prop :=
  ∃ before indent after,
    text = before ++ "(\n" ++ c.print unit (unit ++ indent) true ++ indent ++ ")" ++ after

theorem InParentheses.within {unit text : Text} {c : Code} (h : InParentheses unit c text)
    (before after : Text) : InParentheses unit c (before ++ text ++ after) := by
  obtain ⟨front, indent, back, rfl⟩ := h
  exact ⟨before ++ front, indent, back ++ after, by simp only [List.append_assoc]⟩

theorem InParentheses.placed {unit text : Text} {c : Code} (h : InParentheses unit c text)
    (direct : Bool) : InParentheses unit c (placed direct text) := by
  cases direct with
  | true => exact h
  | false => exact h.within ['{', ' '] [' ', '}']

/-- What stands in the parentheses of a condition or of a loop. -/
theorem inParentheses_of_control {unit indent opening closing : Text} {c operand : Code}
    (h : c = operand ∨ InParentheses unit c (operand.print unit (unit ++ indent) true))
    (before after : Text) (hopening : opening = before ++ "(\n") (hclosing : closing = ")" ++ after)
    (direct : Bool) :
    InParentheses unit c (indent ++ Code.placed direct (opening ++
      operand.print unit (unit ++ indent) true ++ indent ++ closing) ++ "\n") := by
  subst hopening hclosing
  apply InParentheses.within
  apply InParentheses.placed
  rcases h with rfl | h
  · exact ⟨before, indent, after, by simp only [List.append_assoc]⟩
  · have hwithin := h.within (before ++ "(\n") (indent ++ (")" ++ after))
    rwa [← List.append_assoc] at hwithin

mutual

/-- Each operand of code is printed in parentheses. -/
theorem inParentheses_of_operand (unit indent : Text) (direct : Bool) :
    ∀ (c : Code) {operand : Code}, operand ∈ c.operands →
      InParentheses unit operand (c.print unit indent direct)
  | .text value, operand, h => by cases h
  | .element tag props [], operand, h => by cases h
  | .element tag props (child :: children), operand, h => by
    rw [operands] at h
    have hchildren := inParentheses_of_operandsAll unit (unit ++ indent) false (child :: children) h
    rw [print]
    simpa only [List.append_assoc] using
      hchildren.within (indent ++ "<" ++ tag ++ props ++ ">\n") (indent ++ "</" ++ tag ++ ">\n")
  | .conditional test inner, operand, h => by
    rw [operands, List.mem_cons] at h
    rw [print]
    refine inParentheses_of_control (h.imp_right fun hinner =>
      inParentheses_of_operand unit (unit ++ indent) true inner hinner)
      ("(" ++ test ++ ") && ") [] ?_ rfl direct
    simp only [List.append_assoc]
    rfl
  | .loop array item inner, operand, h => by
    rw [operands, List.mem_cons] at h
    rw [print]
    refine inParentheses_of_control (h.imp_right fun hinner =>
      inParentheses_of_operand unit (unit ++ indent) true inner hinner)
      (array ++ ".map(" ++ item ++ " => ") ")" ?_ rfl direct
    simp only [List.append_assoc]
    rfl

theorem inParentheses_of_operandsAll (unit indent : Text) (direct : Bool) :
    ∀ (codes : List Code) {operand : Code}, operand ∈ operandsAll codes →
      InParentheses unit operand (printAll unit indent direct codes)
  | [], operand, h => by cases h
  | c :: codes, operand, h => by
    rw [operandsAll, List.mem_append] at h
    rw [printAll]
    rcases h with h | h
    · exact (inParentheses_of_operand unit indent direct c h).within [] _
    · have hrest := inParentheses_of_operandsAll unit indent direct codes h
      simpa only [List.append_nil] using hrest.within (c.print unit indent direct) []

end

end Code

namespace Renderer

/-- A component returns the code of the template's first node. What stands in the
parentheses of `return`, of conditions and of loops is the code of that node and of the
children of the controls below it, in document order, and a text is written there as
anywhere else. There is none exactly if all these nodes are elements. -/
theorem component_operands (r : Renderer) {root : Element} {text : Text}
    (h : r.component root = .ok text) :
    ∃ first others code, root.children = first :: others ∧ r.code first = .ok code ∧
      text = r.unit ++ "return (\n" ++ code.print r.unit (r.unit ++ r.unit) true ++ r.unit ++
        ");\n" ∧
      (first :: first.operands).map r.code = (code :: code.operands).map .ok ∧
      (∀ c ∈ code :: code.operands, c.InParentheses r.unit text) ∧
      ((∀ c ∈ code :: code.operands, c.isText = false) ↔ first.ElementOperands) := by
  obtain ⟨first, others, code, hroot, hcode, rfl⟩ := r.component_eq_ok h
  have hoperands : (first :: first.operands).map r.code = (code :: code.operands).map .ok := by
    rw [List.map_cons, List.map_cons, hcode, r.map_code_operands first hcode]
  refine ⟨first, others, code, hroot, hcode, rfl, hoperands, ?_, ?_⟩
  · intro c hc
    rcases List.mem_cons.mp hc with rfl | hc
    · refine ⟨r.unit ++ "return ", r.unit, ";\n", ?_⟩
      simp only [List.append_assoc]
      rfl
    · have hinner := Code.inParentheses_of_operand r.unit (r.unit ++ r.unit) true code hc
      simpa only [List.append_assoc] using hinner.within (r.unit ++ "return (\n") (r.unit ++ ");\n")
  · rw [Node.elementOperands_iff]
    constructor
    · intro hnone n hn
      obtain ⟨c, hc, hsame⟩ := List.mem_map.mp (hoperands ▸ List.mem_map_of_mem hn)
      exact (r.isText_of_code hsame.symm).mp (hnone c hc)
    · intro hall c hc
      obtain ⟨n, hn, hsame⟩ := List.mem_map.mp (hoperands.symm ▸ List.mem_map_of_mem hc)
      exact (r.isText_of_code hsame).mpr (hall n hn)

/-- A list of the days that are open. -/
def agenda : Node :=
  .element "controls" [("array", some "{{ days }}"), ("item-name", some "day")]
    [.element "controls" [("test", some "{{ day.open }}")]
      [.element "li" [] [.text "Open" 3] 3] 2] 1

theorem agenda_operands :
    ({} : Renderer).component ⟨"template", [], [agenda, .text "x" 4], 1⟩ = .ok
        ("  return (\n    days.map(day => (\n      (day.open) && (\n        <li>\n" ++
          "          Open\n        </li>\n      )\n    ))\n  );\n") ∧
      ∃ code, ({} : Renderer).code agenda = .ok code ∧
        ∀ c ∈ code :: code.operands, c.isText = false := by
  have hrun : ({} : Renderer).component ⟨"template", [], [agenda, .text "x" 4], 1⟩ = .ok
        ("  return (\n    days.map(day => (\n      (day.open) && (\n        <li>\n" ++
          "          Open\n        </li>\n      )\n    ))\n  );\n") := by decide +kernel
  refine ⟨hrun, ?_⟩
  obtain ⟨first, others, code, hroot, hcode, -, -, -, hnone⟩ := component_operands _ hrun
  obtain ⟨rfl, rfl⟩ := List.cons_eq_cons.mp hroot
  refine ⟨code, hcode, hnone.mpr (Node.elementOperands_iff.mpr ?_)⟩
  decide +kernel

/-- A text at the beginning of a template is returned as it is, and one that depends on a
condition is its operand; and such templates can be written. -/
theorem bare_text_rendered :
    ({} : Renderer).component ⟨"template", [], [.text "Hi" 1, .element "hr" [] [] 1], 1⟩ =
        .ok "  return (\n    Hi\n  );\n" ∧
      ¬ (Node.text "Hi" 1).ElementOperands ∧
      ({} : Renderer).component ⟨"template", [],
          [.element "controls" [("test", some "a")] [.text "Hi" 1] 1], 1⟩ =
        .ok "  return (\n    (a) && (\n      Hi\n    )\n  );\n" ∧
      ¬ (Node.element "controls" [("test", some "a")] [.text "Hi" 1] 1).ElementOperands ∧
      (compile { reactImport := false } "Card" [] "<template>Hi<hr></template>").2 =
        .ok ("export default function Card(props) " ++ ['{'] ++ "\n  return (\n    Hi\n  );\n" ++
          ['}', '\n']) := by
  refine ⟨by decide +kernel, fun h => Bool.false_ne_true h.returned, by decide +kernel,
    fun h => ?_, by decide +kernel⟩
  have hchild := @Node.ElementOperands.controlled _ h [("test", some "a")] [.text "Hi" 1] 1
    List.mem_cons_self _ List.mem_cons_self
  cases hchild

end Renderer

end Jsx

end JsxTemplate
