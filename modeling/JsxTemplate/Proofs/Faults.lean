import JsxTemplate.Proofs.Walk

/-!
# When rendering fails

A node is faulty by itself when it is a control without its one child or its
attributes, or a plain element that spreads something other than one binding.
Rendering a node fails exactly when a node at or below it is faulty, and it says
what is wrong with the first one in document order. The indentation, the aliases
and the place of the node have no say in this.
-/

namespace JsxTemplate

open Jsx

/-! ## Faulty nodes -/

/-- Every attribute of an element has a value, and nothing but texts and elements
stands for a node. -/
def Node.Valued : Node → Prop
  | .text _ _ => True
  | .element _ attrs _ _ => ∀ entry ∈ attrs, entry.2.isSome
  | .stray _ => False

/-- A node and all nodes below it in document order. -/
def Node.subtree (n : Node) : List Node := (n.preorder 0).map Prod.snd

/-- The element is neither a condition nor a loop around one child. A condition
is looked for first. -/
def Element.IllControl (e : Element) : Prop :=
  e.children.length ≠ 1 ∨
    (∃ test, e.attrs.get? "test" = some (some test) ∧ test.blank) ∨
    (e.attrs.get? "test" = none ∧
      (e.attrs.get? "array" = none ∨ e.attrs.get? "item-name" = none ∨
        ∃ array item, e.attrs.get? "array" = some (some array) ∧
          e.attrs.get? "item-name" = some (some item) ∧ (array.blank ∨ item.blank)))

/-- An attribute that is written as a spread without being one binding. -/
def IllSpread (spelling : Text → Text) (attr value : Text) : Prop :=
  spelling attr = spreadMark ∧ ∀ expression, Part.lex value ≠ [.binding expression]

/-- Something is wrong with the node itself. -/
def Node.Faulty (spelling : Text → Text) : Node → Prop
  | .text _ _ => False
  | .element name attrs children line =>
    if name = controlName then Element.IllControl ⟨name, attrs, children, line⟩
    else ∃ attr value, (attr, some value) ∈ attrs ∧ IllSpread spelling attr value
  | .stray _ => False

/-- What is said about a faulty node. The number of children of a control comes
before its attributes, and of these `test` comes first, then `array`, then
`item-name`; of the spreads of an element the first is named. -/
inductive Complaint (spelling : Text → Text) : Node → Malformed → Prop
  | childCount {attrs : Attrs} {children : List Node} {line : Nat} (h : children.length ≠ 1) :
    Complaint spelling (.element controlName attrs children line)
      ⟨some controlName, .childCount children.length⟩
  | blankTest {attrs : Attrs} {child : Node} {line : Nat} {test : Text}
    (htest : attrs.get? "test" = some (some test)) (hblank : test.blank) :
    Complaint spelling (.element controlName attrs [child] line)
      ⟨some controlName, .blankAttribute "test"⟩
  | controlForm {attrs : Attrs} {child : Node} {line : Nat} (htest : attrs.get? "test" = none)
    (hloop : attrs.get? "array" = none ∨ attrs.get? "item-name" = none) :
    Complaint spelling (.element controlName attrs [child] line) ⟨some controlName, .controlForm⟩
  | blankArray {attrs : Attrs} {child : Node} {line : Nat} {array item : Text}
    (htest : attrs.get? "test" = none) (harray : attrs.get? "array" = some (some array))
    (hitem : attrs.get? "item-name" = some (some item)) (hblank : array.blank) :
    Complaint spelling (.element controlName attrs [child] line)
      ⟨some controlName, .blankAttribute "array"⟩
  | blankItem {attrs : Attrs} {child : Node} {line : Nat} {array item : Text}
    (htest : attrs.get? "test" = none) (harray : attrs.get? "array" = some (some array))
    (hitem : attrs.get? "item-name" = some (some item)) (hfirst : array.blank = false)
    (hblank : item.blank) :
    Complaint spelling (.element controlName attrs [child] line)
      ⟨some controlName, .blankAttribute "item-name"⟩
  | spread {name : Text} {before after : Attrs} {attr value : Text} {children : List Node}
    {line : Nat} (hname : name ≠ controlName)
    (hfirst : ∀ a v, (a, some v) ∈ before → ¬ IllSpread spelling a v)
    (hspread : IllSpread spelling attr value) :
    Complaint spelling (.element name (before ++ (attr, some value) :: after) children line)
      ⟨if name = [] then none else some name, .spread (some value)⟩

/-- The complaint about the first faulty node of a list. -/
def FirstComplaint (spelling : Text → Text) (nodes : List Node) (m : Malformed) : Prop :=
  ∃ before n after, nodes = before ++ n :: after ∧
    (∀ b ∈ before, ¬ b.Faulty spelling) ∧ Complaint spelling n m

/-! ## The failure of one node -/

/-- The failure of a computation that may fail. -/
def failure? {ε α : Type} : Except ε α → Option ε
  | .ok _ => none
  | .error f => some f

theorem failure?_eq_some_iff {ε α : Type} {x : Except ε α} {f : ε} :
    failure? x = some f ↔ x = .error f := by
  cases x with
  | ok a => simp [failure?]
  | error g => simp [failure?]

theorem failure?_bind {ε α β : Type} (x : Except ε α) (g : α → Except ε β) :
    failure? (x >>= g) = match x with
      | .ok a => failure? (g a)
      | .error f => some f := by
  cases x <;> rfl

theorem failure?_map {ε α β : Type} (x : Except ε α) (g : α → β) :
    failure? (x >>= fun a => .ok (g a)) = failure? x := by
  cases x <;> rfl

/-- What makes rendering fail at a node itself, whatever stands below it. -/
def Node.fault? (spelling : Text → Text) : Node → Option RenderFault
  | .text _ _ => none
  | .element name attrs children line =>
    if name = controlName then failure? (Element.control ⟨name, attrs, children, line⟩)
    else attrs.findSome? fun entry =>
      failure? (({ spelling := spelling } : Renderer).prop name entry.1 entry.2)
  | .stray _ => some .stray

theorem Table.mem_of_get? {α : Type} {key : Text} {value : α} :
    ∀ {t : Table α}, t.get? key = some value → (key, value) ∈ t
  | [], h => by simp [Table.get?] at h
  | (k, v) :: t, h => by
    rw [Table.get?] at h
    split at h
    · next hk =>
      cases h
      rw [hk]
      exact List.mem_cons_self
    · exact List.mem_cons_of_mem _ (mem_of_get? h)

/-- An attribute that is there has a value. -/
theorem exists_value_of_get? {attrs : Attrs} (hvalued : ∀ entry ∈ attrs, entry.2.isSome)
    {key : Text} {value : Option Text} (h : attrs.get? key = some value) :
    ∃ given, value = some given :=
  Option.isSome_iff_exists.mp (hvalued _ (Table.mem_of_get? h))

namespace Element

variable {e : Element}

theorem control_of_count (h : e.children.length ≠ 1) :
    e.control = e.fault (.childCount e.children.length) := by
  unfold control
  rw [if_pos h]
  rfl

theorem control_of_test (h : e.children.length = 1) {test : Text}
    (htest : e.attrs.get? "test" = some (some test)) :
    e.control =
      if test.blank then e.fault (.blankAttribute "test") else .ok (.conditional test) := by
  unfold control
  rw [if_neg (not_not_intro h), htest]
  cases hblank : test.blank <;> simp only [required, hblank] <;> rfl

theorem control_of_loop (h : e.children.length = 1) (htest : e.attrs.get? "test" = none)
    {array item : Text} (harray : e.attrs.get? "array" = some (some array))
    (hitem : e.attrs.get? "item-name" = some (some item)) :
    e.control =
      if array.blank then e.fault (.blankAttribute "array")
      else if item.blank then e.fault (.blankAttribute "item-name")
      else .ok (.loop array item) := by
  unfold control
  rw [if_neg (not_not_intro h), htest, harray, hitem]
  cases hfirst : array.blank <;> cases hblank : item.blank <;>
    simp only [required, hfirst, hblank] <;> rfl

theorem control_of_form (h : e.children.length = 1) (htest : e.attrs.get? "test" = none)
    (hloop : e.attrs.get? "array" = none ∨ e.attrs.get? "item-name" = none) :
    e.control = e.fault .controlForm := by
  unfold control
  rw [if_neg (not_not_intro h), htest]
  rcases hloop with hnone | hnone
  · rw [hnone]
  · rw [hnone]
    cases e.attrs.get? "array" <;> rfl

end Element

/-- A control is refused for what is first wrong with it. -/
theorem control_eq_error_iff (spelling : Text → Text) {attrs : Attrs} {children : List Node}
    {line : Nat} (hvalued : ∀ entry ∈ attrs, entry.2.isSome) {f : RenderFault} :
    Element.control ⟨controlName, attrs, children, line⟩ = .error f ↔
      ∃ m, f = .malformed m ∧
        Complaint spelling (.element controlName attrs children line) m := by
  constructor
  · intro h
    by_cases hcount : children.length = 1
    · obtain ⟨child, rfl⟩ := List.length_eq_one_iff.mp hcount
      cases htest : attrs.get? "test" with
      | some test =>
        obtain ⟨test, rfl⟩ := exists_value_of_get? hvalued htest
        rw [Element.control_of_test rfl htest] at h
        split at h
        · next hblank =>
          cases h
          exact ⟨_, rfl, .blankTest htest hblank⟩
        · cases h
      | none =>
        cases harray : attrs.get? "array" with
        | none =>
          rw [Element.control_of_form rfl htest (.inl harray)] at h
          cases h
          exact ⟨_, rfl, .controlForm htest (.inl harray)⟩
        | some array =>
          cases hitem : attrs.get? "item-name" with
          | none =>
            rw [Element.control_of_form rfl htest (.inr hitem)] at h
            cases h
            exact ⟨_, rfl, .controlForm htest (.inr hitem)⟩
          | some item =>
            obtain ⟨array, rfl⟩ := exists_value_of_get? hvalued harray
            obtain ⟨item, rfl⟩ := exists_value_of_get? hvalued hitem
            rw [Element.control_of_loop rfl htest harray hitem] at h
            split at h
            · next hblank =>
              cases h
              exact ⟨_, rfl, .blankArray htest harray hitem hblank⟩
            · next hfirst =>
              split at h
              · next hblank =>
                cases h
                exact ⟨_, rfl, .blankItem htest harray hitem (Bool.eq_false_iff.mpr hfirst) hblank⟩
              · cases h
    · rw [Element.control_of_count hcount] at h
      cases h
      exact ⟨_, rfl, .childCount hcount⟩
  · rintro ⟨m, rfl, h⟩
    cases h with
    | childCount hcount => exact Element.control_of_count hcount
    | blankTest htest hblank =>
      rw [Element.control_of_test rfl htest, if_pos hblank]
      rfl
    | controlForm htest hloop => exact Element.control_of_form rfl htest hloop
    | blankArray htest harray hitem hblank =>
      rw [Element.control_of_loop rfl htest harray hitem, if_pos hblank]
      rfl
    | blankItem htest harray hitem hfirst hblank =>
      rw [Element.control_of_loop rfl htest harray hitem, hfirst, if_neg Bool.false_ne_true,
        if_pos hblank]
      rfl
    | spread hname => exact absurd rfl hname

/-- An ill control is one that there is a complaint about. -/
theorem illControl_iff (spelling : Text → Text) {attrs : Attrs} {children : List Node}
    {line : Nat} :
    Element.IllControl ⟨controlName, attrs, children, line⟩ ↔
      ∃ m, Complaint spelling (.element controlName attrs children line) m := by
  constructor
  · intro h
    by_cases hcount : children.length = 1
    · obtain ⟨child, rfl⟩ := List.length_eq_one_iff.mp hcount
      rcases h with hcount' | ⟨test, htest, hblank⟩ | ⟨htest, hloop⟩
      · exact absurd rfl hcount'
      · exact ⟨_, .blankTest htest hblank⟩
      · rcases hloop with hnone | hnone | ⟨array, item, harray, hitem, hblank⟩
        · exact ⟨_, .controlForm htest (.inl hnone)⟩
        · exact ⟨_, .controlForm htest (.inr hnone)⟩
        · cases hfirst : array.blank with
          | true => exact ⟨_, .blankArray htest harray hitem hfirst⟩
          | false =>
            rw [hfirst] at hblank
            exact ⟨_, .blankItem htest harray hitem hfirst (hblank.resolve_left Bool.false_ne_true)⟩
    · exact ⟨_, .childCount hcount⟩
  · rintro ⟨m, h⟩
    cases h with
    | childCount hcount => exact .inl hcount
    | blankTest htest hblank => exact .inr (.inl ⟨_, htest, hblank⟩)
    | controlForm htest hloop =>
      exact .inr (.inr ⟨htest, hloop.imp_right .inl⟩)
    | blankArray htest harray hitem hblank =>
      exact .inr (.inr ⟨htest, .inr (.inr ⟨_, _, harray, hitem, .inl hblank⟩)⟩)
    | blankItem htest harray hitem _ hblank =>
      exact .inr (.inr ⟨htest, .inr (.inr ⟨_, _, harray, hitem, .inr hblank⟩)⟩)
    | spread hname => exact absurd rfl hname

theorem Part.single?_eq_none_iff {parts : List Part} :
    single? parts = none ↔ ∀ expression, parts ≠ [.binding expression] := by
  constructor
  · rintro h expression rfl
    cases h
  · intro h
    unfold single?
    split
    · next expression => exact absurd rfl (h expression)
    · rfl

namespace Jsx.Renderer

variable (r : Renderer)

theorem prop_eq_error_iff {node attr value : Text} {f : RenderFault} :
    r.prop node attr (some value) = .error f ↔
      IllSpread r.spelling attr value ∧
        f = .malformed ⟨if node = [] then none else some node, .spread (some value)⟩ := by
  unfold prop IllSpread
  rw [← Part.single?_eq_none_iff]
  by_cases hspread : r.spelling attr = spreadMark
  · simp only [hspread, ↓reduceIte, true_and, Binding.resolveSpread?, Option.getD_some]
    cases Part.single? (Part.lex value) with
    | none => simp [eq_comm]
    | some expression => simp
  · simp [hspread]

theorem failure?_props (node : Text) (attrs : Attrs) :
    failure? (r.props node attrs) =
      attrs.findSome? fun entry => failure? (r.prop node entry.1 entry.2) := by
  induction attrs with
  | nil => rfl
  | cons entry attrs ih =>
    rw [props, List.findSome?_cons, ← ih, failure?_bind]
    cases r.prop node entry.1 entry.2 with
    | error f => rfl
    | ok first => exact failure?_map _ fun others => ' ' :: first ++ others

end Jsx.Renderer

/-- The only complaint about a plain element is the one about its first ill spread. -/
theorem Complaint.first_spread {spelling : Text → Text} {name : Text} (hname : name ≠ controlName)
    {attrs : Attrs} {children : List Node} {line : Nat} {m : Malformed}
    (h : Complaint spelling (.element name attrs children line) m) :
    ∃ before attr value after, attrs = before ++ (attr, some value) :: after ∧
      (∀ a v, (a, some v) ∈ before → ¬ IllSpread spelling a v) ∧ IllSpread spelling attr value ∧
      m = ⟨if name = [] then none else some name, .spread (some value)⟩ := by
  cases h with
  | spread _ hfirst hspread => exact ⟨_, _, _, _, rfl, hfirst, hspread, rfl⟩
  | childCount => exact absurd rfl hname
  | blankTest => exact absurd rfl hname
  | controlForm => exact absurd rfl hname
  | blankArray => exact absurd rfl hname
  | blankItem => exact absurd rfl hname

/-- A plain element is refused for its first ill spread. -/
theorem findSome?_prop_iff (spelling : Text → Text) {name : Text} (hname : name ≠ controlName)
    {attrs : Attrs} {children : List Node} {line : Nat}
    (hvalued : ∀ entry ∈ attrs, entry.2.isSome) {f : RenderFault} :
    (attrs.findSome? fun entry =>
        failure? (({ spelling := spelling } : Renderer).prop name entry.1 entry.2)) = some f ↔
      ∃ m, f = .malformed m ∧ Complaint spelling (.element name attrs children line) m := by
  rw [List.findSome?_eq_some_iff]
  constructor
  · rintro ⟨before, ⟨attr, value⟩, after, rfl, hfault, hbefore⟩
    obtain ⟨value, rfl⟩ : ∃ given, value = some given :=
      Option.isSome_iff_exists.mp (hvalued (attr, value) (by simp))
    obtain ⟨hspread, rfl⟩ := (Renderer.prop_eq_error_iff _).mp (failure?_eq_some_iff.mp hfault)
    refine ⟨_, rfl, .spread hname (fun a v hmem hill => ?_) hspread⟩
    have hnone := hbefore _ hmem
    rw [(failure?_eq_some_iff).mpr ((Renderer.prop_eq_error_iff _).mpr ⟨hill, rfl⟩)] at hnone
    cases hnone
  · rintro ⟨m, rfl, h⟩
    obtain ⟨before, attr, value, after, rfl, hfirst, hspread, rfl⟩ := h.first_spread hname
    refine ⟨_, _, _, rfl,
      failure?_eq_some_iff.mpr ((Renderer.prop_eq_error_iff _).mpr ⟨hspread, rfl⟩), ?_⟩
    rintro ⟨a, v⟩ hmem
    obtain ⟨v, rfl⟩ : ∃ given, v = some given :=
      Option.isSome_iff_exists.mp (hvalued (a, v) (List.mem_append_left _ hmem))
    cases hp : failure? (({ spelling := spelling } : Renderer).prop name a (some v)) with
    | none => rfl
    | some g =>
      have hill := ((Renderer.prop_eq_error_iff _).mp (failure?_eq_some_iff.mp hp)).1
      exact absurd hill (hfirst a v hmem)

/-- A list with something of a kind in it has a first thing of that kind. -/
theorem exists_first {α : Type} {p : α → Prop} {xs : List α} (h : ∃ x ∈ xs, p x) :
    ∃ before x after, xs = before ++ x :: after ∧ (∀ b ∈ before, ¬ p b) ∧ p x := by
  classical
  obtain ⟨x, hx⟩ : ∃ x, xs.find? (fun x => decide (p x)) = some x := by
    rw [← Option.isSome_iff_exists, List.find?_isSome]
    simpa using h
  obtain ⟨hp, before, after, rfl, hbefore⟩ := List.find?_eq_some_iff_append.mp hx
  exact ⟨before, x, after, rfl, by simpa using hbefore, by simpa using hp⟩

namespace Node

/-- A node that is a text or an element with values is refused for the complaint
about it. -/
theorem fault?_eq_some_iff (spelling : Text → Text) {n : Node} (hvalued : n.Valued)
    {f : RenderFault} :
    n.fault? spelling = some f ↔ ∃ m, f = .malformed m ∧ Complaint spelling n m := by
  cases n with
  | text value line =>
    constructor
    · intro h
      cases h
    · rintro ⟨m, -, h⟩
      cases h
  | stray value => exact absurd hvalued id
  | element name attrs children line =>
    rw [fault?]
    by_cases hname : name = controlName
    · rw [if_pos hname, failure?_eq_some_iff]
      subst hname
      exact control_eq_error_iff spelling hvalued
    · rw [if_neg hname]
      exact findSome?_prop_iff spelling hname hvalued

/-- The faulty nodes are those that there is a complaint about. -/
theorem faulty_iff (spelling : Text → Text) {n : Node} (hvalued : n.Valued) :
    n.Faulty spelling ↔ ∃ m, Complaint spelling n m := by
  cases n with
  | text value line =>
    constructor
    · intro h
      cases h
    · rintro ⟨m, h⟩
      cases h
  | stray value => exact absurd hvalued id
  | element name attrs children line =>
    rw [Faulty]
    by_cases hname : name = controlName
    · subst hname
      rw [if_pos rfl]
      exact illControl_iff spelling
    · rw [if_neg hname]
      constructor
      · rintro ⟨attr, value, hmem, hill⟩
        obtain ⟨before, ⟨a, v⟩, after, rfl, hbefore, hfirst⟩ :=
          exists_first (p := fun entry : Text × Option Text =>
            ∃ given, entry.2 = some given ∧ IllSpread spelling entry.1 given)
            ⟨_, hmem, value, rfl, hill⟩
        obtain ⟨given, rfl, hill⟩ := hfirst
        exact ⟨_, .spread hname (fun a v hmem hill => hbefore _ hmem ⟨v, rfl, hill⟩) hill⟩
      · rintro ⟨m, h⟩
        obtain ⟨before, attr, value, after, rfl, -, hspread, -⟩ := h.first_spread hname
        exact ⟨attr, value, by simp, hspread⟩

end Node

/-- There is a first complaint as soon as any node is faulty. -/
theorem exists_firstComplaint_iff (spelling : Text → Text) {nodes : List Node}
    (hvalued : ∀ n ∈ nodes, n.Valued) :
    (∃ m, FirstComplaint spelling nodes m) ↔ ∃ n ∈ nodes, n.Faulty spelling := by
  constructor
  · rintro ⟨m, before, n, after, hsplit, -, hm⟩
    have hn : n ∈ nodes := by simp [hsplit]
    exact ⟨n, hn, (Node.faulty_iff _ (hvalued n hn)).mpr ⟨m, hm⟩⟩
  · intro hfaulty
    obtain ⟨before, n, after, hsplit, hbefore, hn⟩ := exists_first hfaulty
    obtain ⟨m, hm⟩ := (Node.faulty_iff _ (hvalued n (by simp [hsplit]))).mp hn
    exact ⟨m, before, n, after, hsplit, hbefore, hm⟩

/-! ## The failure of a tree -/

namespace Jsx.Renderer

variable (r : Renderer)

theorem failure?_controlBlock (indent : Text) (direct : Bool) (e : Element)
    (child : Except RenderFault Text) :
    failure? (controlBlock indent direct e child) = (failure? e.control).or (failure? child) := by
  unfold controlBlock
  cases e.control with
  | error f => rfl
  | ok c =>
    cases child with
    | error f => rfl
    | ok body => cases direct <;> rfl

theorem failure?_element (indent : Text) (e : Element) (children : Except RenderFault Text)
    (hchildren : e.children = [] → failure? children = none) :
    failure? (r.element indent e children) =
      (failure? (r.props e.name e.attrs)).or (failure? children) := by
  unfold element
  cases r.props e.name e.attrs with
  | error f => rfl
  | ok props =>
    cases hc : e.children with
    | nil =>
      rw [hchildren hc]
      rfl
    | cons child others =>
      cases children with
      | error f => rfl
      | ok body => rfl

mutual

theorem failure?_node (indent : Text) (direct : Bool) (depth : Nat) :
    ∀ n : Node, failure? (r.node indent direct n) =
      (n.preorder depth).findSome? fun place => place.2.fault? r.spelling
  | .text value line => rfl
  | .stray value => rfl
  | .element name attrs children line => by
    rw [node, Node.preorder, ← List.singleton_append, List.findSome?_append]
    by_cases hname : name = controlName
    · rw [if_pos hname, failure?_controlBlock, failure?_nodes _ _ (depth + 1) children]
      simp only [List.findSome?_singleton, Node.fault?, hname, ↓reduceIte]
    · rw [if_neg hname, failure?_element, failure?_nodes _ _ (depth + 1) children, failure?_props]
      · simp only [List.findSome?_singleton, Node.fault?, hname, ↓reduceIte]
        rfl
      · intro hnone
        have hnone : children = [] := hnone
        rw [hnone]
        rfl

theorem failure?_nodes (indent : Text) (direct : Bool) (depth : Nat) :
    ∀ ns : List Node, failure? (r.nodes indent direct ns) =
      (preorderAll depth ns).findSome? fun place => place.2.fault? r.spelling
  | [] => rfl
  | n :: ns => by
    rw [nodes, preorderAll, List.findSome?_append, ← failure?_node indent direct depth n,
      ← failure?_nodes indent direct depth ns, failure?_bind]
    cases r.node indent direct n with
    | error f => rfl
    | ok first => exact failure?_map _ fun others => first ++ others

end

/-- A node fails with the first fault in its subtree, whatever it is rendered with. -/
theorem failure?_node_eq (indent : Text) (direct : Bool) (n : Node) :
    failure? (r.node indent direct n) = n.subtree.findSome? (Node.fault? r.spelling) := by
  rw [failure?_node r indent direct 0, Node.subtree, List.findSome?_map]
  rfl

/-- The only way for a tree of texts and elements to fail is a complaint about the
first faulty node. -/
theorem node_eq_error_iff (indent : Text) (direct : Bool) {n : Node}
    (hvalued : ∀ m ∈ n.subtree, m.Valued) {f : RenderFault} :
    r.node indent direct n = .error f ↔
      ∃ m, f = .malformed m ∧ FirstComplaint r.spelling n.subtree m := by
  rw [← failure?_eq_some_iff, failure?_node_eq, List.findSome?_eq_some_iff]
  constructor
  · rintro ⟨before, x, after, hsplit, hfault, hbefore⟩
    rw [hsplit] at hvalued
    obtain ⟨m, rfl, hm⟩ := (Node.fault?_eq_some_iff _ (hvalued x (by simp))).mp hfault
    refine ⟨m, rfl, before, x, after, hsplit, fun b hb hfaulty => ?_, hm⟩
    have hbvalued : b.Valued := hvalued b (by simp [hb])
    obtain ⟨m', hm'⟩ := (Node.faulty_iff _ hbvalued).mp hfaulty
    have hsome := (Node.fault?_eq_some_iff _ hbvalued).mpr ⟨m', rfl, hm'⟩
    rw [hbefore b hb] at hsome
    cases hsome
  · rintro ⟨m, rfl, before, x, after, hsplit, hbefore, hm⟩
    rw [hsplit] at hvalued
    refine ⟨before, x, after, hsplit,
      (Node.fault?_eq_some_iff _ (hvalued x (by simp))).mpr ⟨m, rfl, hm⟩, fun b hb => ?_⟩
    have hbvalued : b.Valued := hvalued b (by simp [hb])
    cases hb' : b.fault? r.spelling with
    | none => rfl
    | some g =>
      obtain ⟨m', -, hm'⟩ := (Node.fault?_eq_some_iff _ hbvalued).mp hb'
      exact absurd ((Node.faulty_iff _ hbvalued).mpr ⟨m', hm'⟩) (hbefore b hb)

theorem component_eq_error_iff {root : Element} {first : Node} {others : List Node}
    (hroot : root.children = first :: others) {f : RenderFault} :
    r.component root = .error f ↔ r.node (r.unit ++ r.unit) true first = .error f := by
  unfold component
  rw [hroot, ← failure?_eq_some_iff, ← failure?_eq_some_iff]
  exact iff_of_eq (congrArg (· = some f) (failure?_map _ _))

end Jsx.Renderer

/-! ## The attributes that spread -/

namespace Jsx

theorem toUpper_ne_dot {c : Char} (h : (c.isLower || c.isDigit) = true) : c.toUpper ≠ '.' := by
  have hlt : c.toNat < 128 := by
    rw [Bool.or_eq_true] at h
    rcases h with h | h
    · have hlast : c ≤ 'z' := of_decide_eq_true (Bool.and_eq_true_iff.mp h).2
      exact Nat.lt_of_le_of_lt hlast (by decide)
    · have hlast : c ≤ '9' := of_decide_eq_true (Bool.and_eq_true_iff.mp h).2
      exact Nat.lt_of_le_of_lt hlast (by decide)
  have hall : ∀ n < 128, ((Char.ofNat n).isLower || (Char.ofNat n).isDigit) = true →
      (Char.ofNat n).toUpper ≠ '.' := by decide +kernel
  have hc := hall c.toNat hlt
  rw [Char.ofNat_toNat] at hc
  exact hc h

/-- Joining words makes no dots, so a name that becomes dots has been dots before. -/
theorem joinWords_of_dots (s : Text) (h : ∀ c ∈ joinWords s, c = '.') : joinWords s = s := by
  fun_induction joinWords s with
  | case1 => rfl
  | case2 c s hword ih => exact absurd (h _ List.mem_cons_self) (toUpper_ne_dot hword)
  | case3 c s hword ih => exact absurd (h '-' List.mem_cons_self) (by decide)
  | case4 c s hdash ih => rw [ih fun d hd => h d (List.mem_cons_of_mem _ hd)]

/-- Two attributes are written as a spread: the one that is made for it, and the
mark itself. -/
theorem propName_eq_spreadMark_iff (attr : Text) :
    propName attr = spreadMark ↔ attr = "use-props" ∨ attr = "..." := by
  constructor
  · intro h
    unfold propName at h
    split at h
    · next known prop hfound =>
      have htable : (attributeProps ++ eventProps).all (fun entry =>
          entry.2.toList != spreadMark || entry.1 == "use-props") = true := by decide +kernel
      have hentry := List.all_eq_true.mp htable _ (List.mem_of_find?_eq_some hfound)
      have hname := List.find?_some hfound
      rw [Bool.or_eq_true, bne_iff_ne, beq_iff_eq] at hentry
      have hknown : known = "use-props" := hentry.resolve_left (not_not_intro h)
      exact .inl ((of_decide_eq_true hname).symm.trans (congrArg String.toList hknown))
    · split at h
      · exact .inr h
      · have hdots : ∀ c ∈ joinWords attr, c = '.' := by
          rw [h]
          exact fun c hc => by simpa [spreadMark] using hc
        exact .inr ((joinWords_of_dots attr hdots).symm.trans h)
  · rintro (rfl | rfl) <;> decide +kernel

namespace Renderer

/-- A component fails exactly when a node at or below the first child of its root
is faulty; then it says what is wrong with the first of these in document order,
and otherwise it succeeds. This depends on nothing but that child and the
spelling of attributes. -/
theorem component_fails_at_first_fault (r : Renderer) {root : Element} {first : Node}
    {others : List Node} (hroot : root.children = first :: others)
    (hvalued : ∀ n ∈ first.subtree, n.Valued) :
    ((∃ m, r.component root = .error (.malformed m)) ↔
        ∃ n ∈ first.subtree, n.Faulty r.spelling) ∧
      ((∃ text, r.component root = .ok text) ↔
        ∀ n ∈ first.subtree, ¬ n.Faulty r.spelling) ∧
      (∀ m, r.component root = .error (.malformed m) ↔
        FirstComplaint r.spelling first.subtree m) ∧
      (∀ r' : Renderer, r'.spelling = r.spelling →
        (∀ root' : Element, root'.children.head? = some first →
          ∀ f, r'.component root' = .error f ↔ r.component root = .error f) ∧
        ∀ indent direct f, r'.node indent direct first = .error f ↔ r.component root = .error f) ∧
      ∀ attr, propName attr = spreadMark ↔ attr = "use-props" ∨ attr = "..." := by
  have herror : ∀ f, r.component root = .error f ↔
      ∃ m, f = .malformed m ∧ FirstComplaint r.spelling first.subtree m := fun f =>
    (r.component_eq_error_iff hroot).trans (r.node_eq_error_iff _ _ hvalued)
  have hmalformed : ∀ m, r.component root = .error (.malformed m) ↔
      FirstComplaint r.spelling first.subtree m := fun m =>
    (herror _).trans ⟨fun ⟨_, heq, h⟩ => RenderFault.malformed.inj heq ▸ h, fun h => ⟨m, rfl, h⟩⟩
  have hfails : (∃ m, r.component root = .error (.malformed m)) ↔
      ∃ n ∈ first.subtree, n.Faulty r.spelling := by
    simp only [hmalformed]
    exact exists_firstComplaint_iff _ hvalued
  refine ⟨hfails, ?_, hmalformed, fun r' hspelling => ⟨fun root' hroot' f => ?_,
    fun indent direct f => ?_⟩, propName_eq_spreadMark_iff⟩
  · constructor
    · rintro ⟨text, htext⟩ n hn hfaulty
      obtain ⟨m, hm⟩ := hfails.mpr ⟨n, hn, hfaulty⟩
      rw [htext] at hm
      cases hm
    · intro hnone
      cases hc : r.component root with
      | ok text => exact ⟨text, rfl⟩
      | error f =>
        obtain ⟨m, rfl, -⟩ := (herror f).mp hc
        obtain ⟨n, hn, hfaulty⟩ := hfails.mp ⟨m, hc⟩
        exact absurd hfaulty (hnone n hn)
  · obtain ⟨others', hroot'⟩ := List.head?_eq_some_iff.mp hroot'
    rw [r'.component_eq_error_iff hroot', r'.node_eq_error_iff _ _ hvalued, hspelling, herror]
  · rw [r'.node_eq_error_iff _ _ hvalued, hspelling, herror]

/-- A list whose item spreads more than a binding, after a condition. -/
def badList : Node :=
  .element "ul" [("class", some "plain")]
    [.element "controls" [("test", some "{{ open }}"), ("array", some " ")]
        [.text "Open" 2] 2,
      .element "li" [("use-props", some "{{ a }} b"), ("...", some "c")]
        [.element "controls" [] [] 3] 3] 1

/-- The first spread of the item is named, and neither its second one nor the
control without a child below it. A blank `array` is no fault of a condition. -/
theorem component_fails_at_badList :
    (∀ n ∈ badList.subtree, n.Valued) ∧
      ({ unit := "\t" } : Renderer).component ⟨"template", [], [badList, .text "x" 4], 1⟩ =
        .error (.malformed ⟨some "li", .spread (some "{{ a }} b")⟩) := by
  have hvalued : ∀ n ∈ badList.subtree, n.Valued := by
    simp only [badList, Node.subtree, Node.preorder, preorderAll, List.map_cons, List.map_nil,
      List.cons_append, List.nil_append, List.forall_mem_cons, Node.Valued]
    simp
  refine ⟨hvalued, ?_⟩
  have hmain := @component_fails_at_first_fault { unit := "\t" }
    ⟨"template", [], [badList, .text "x" 4], 1⟩ badList [.text "x" 4] rfl hvalued
  refine (hmain.2.2.1 _).mpr ⟨[_, _, _], _, [_], rfl, ?_,
    @Complaint.spread _ _ [] _ _ _ _ _ (by decide) (by simp)
      ⟨by decide +kernel, Part.single?_eq_none_iff.mp (by decide +kernel)⟩⟩
  simp only [List.forall_mem_cons, Node.Faulty]
  refine ⟨?_, ?_, id, by simp⟩
  · rintro ⟨attr, value, hmem, hspread, -⟩
    obtain ⟨rfl, -⟩ : attr = "class".toList ∧ _ := by simpa using hmem
    exact absurd hspread (by decide +kernel)
  · rintro (hcount | ⟨test, htest, hblank⟩ | ⟨htest, -⟩)
    · exact hcount rfl
    · have hgiven : some (some "{{ open }}".toList) = some (some test) := htest
      obtain rfl := Option.some.inj (Option.some.inj hgiven)
      exact absurd hblank (by decide)
    · cases htest

end Renderer

end Jsx

end JsxTemplate
