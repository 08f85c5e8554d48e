import JsxTemplate.Proofs.Compiling
import JsxTemplate.Proofs.Faults
import JsxTemplate.Proofs.Reading
import JsxTemplate.Proofs.Nesting

/-!
# Files that cannot be read

What is wrong with the contents of a file is an error of its template, with two
exceptions: bytes that are no text, and markup that the reader gives up on. The
reader gives up only where a marked section begins or where a number has too many
digits. A tree that has been read holds nothing that rendering could stumble over
but what it complains about.
-/

namespace JsxTemplate

open Markup (Located Piece locate)

/-! ## Where the reader gives up -/

/-- A decimal character number with too many digits to be read stands in a text. -/
def Overlong (s : Text) : Prop :=
  ∃ digits, Text.maxDigits < digits.length ∧ digits.all Char.isDigit = true ∧
    '&' :: '#' :: digits <:+: s

theorem Overlong.of_isInfix {s t : Text} (h : Overlong s) (hin : s <:+: t) : Overlong t := by
  obtain ⟨digits, hlong, hdigits, hs⟩ := h
  exact ⟨digits, hlong, hdigits, hs.trans hin⟩

/-- The reader can give up on a text: a marked section begins in it, or a number in
it has too many digits. -/
def Troubled (s : Text) : Prop := ['<', '!', '['] <:+: s ∨ Overlong s

theorem Troubled.of_isInfix {s t : Text} (h : Troubled s) (hin : s <:+: t) : Troubled t :=
  h.imp (·.trans hin) (·.of_isInfix hin)

namespace Markup

open Text

end Markup

/-! ## Trees that have been read -/

theorem Table.mem_of_mem_put {α : Type} {key : Text} {value : α} {entry : Text × α} :
    ∀ {t : Table α}, entry ∈ t.put key value → entry = (key, value) ∨ entry ∈ t
  | [], h => .inl (List.mem_singleton.mp h)
  | (k, v) :: t, h => by
    rw [put] at h
    split at h
    · next hk =>
      rcases List.mem_cons.mp h with heq | hmem
      · exact .inl (by rw [heq, hk])
      · exact .inr (List.mem_cons_of_mem _ hmem)
    · rcases List.mem_cons.mp h with heq | hmem
      · exact .inr (heq ▸ List.mem_cons_self)
      · exact (mem_of_mem_put hmem).imp id (List.mem_cons_of_mem _)

/-- A table holds nothing but the entries it was made from. -/
theorem Table.mem_of_mem_ofEntries {α : Type} {entry : Text × α} {entries : List (Text × α)}
    (h : entry ∈ ofEntries entries) : entry ∈ entries := by
  induction entries using List.reverseRecOn with
  | nil => exact h
  | append_singleton entries last ih =>
    rw [ofEntries_append] at h
    rcases mem_of_mem_put h with heq | hmem
    · exact List.mem_append_right _ (heq ▸ List.mem_singleton_self _)
    · exact List.mem_append_left _ (ih hmem)

/-- A mark that a tree with values leaves. -/
def Mark.Valued : Mark → Prop
  | .enter _ attrs _ => ∀ entry ∈ attrs, entry.2.isSome
  | .stray _ => False
  | _ => True

theorem valued_settled (name : Text) (attrs : Markup.Attrs) (line : Nat) :
    (Mark.enter name (settled attrs) line).Valued := by
  intro entry hentry
  rw [← attrsOf_eq_settled, Growth.attrsOf] at hentry
  obtain ⟨attr, -, rfl⟩ := List.mem_map.mp (Table.mem_of_mem_ofEntries hentry)
  rfl

theorem valued_textMarks (pending : Option (Nat × Text)) : ∀ m ∈ textMarks pending, m.Valued := by
  intro m hm
  unfold textMarks at hm
  split at hm
  · cases hm
  · split at hm
    · cases hm
    · rw [List.mem_singleton.mp hm]
      trivial

/-- Events mark nothing without a value. -/
theorem valued_normalMarks (pending : Option (Nat × Text)) (events : List Located) :
    ∀ m ∈ normalMarks pending events, m.Valued := by
  have htext := valued_textMarks
  fun_induction normalMarks pending events with
  | case1 pending => exact htext pending
  | case2 pending line name attrs events ih =>
    have hvoid : ∀ m ∈ if isVoid name then [Mark.leave name] else [], m.Valued := by
      split
      · exact List.forall_mem_singleton.mpr trivial
      · exact nofun
    simp only [List.forall_mem_append, List.forall_mem_cons]
    exact ⟨htext pending, valued_settled name attrs line, hvoid, ih⟩
  | case3 pending line name attrs events ih =>
    simp only [List.forall_mem_append, List.forall_mem_cons]
    exact ⟨htext pending, valued_settled name attrs line, trivial, ih⟩
  | case4 pending line name events ih =>
    have hvoid : ∀ m ∈ if isVoid name then [] else [Mark.leave name], m.Valued := by
      split
      · exact nofun
      · exact List.forall_mem_singleton.mpr trivial
    simp only [List.forall_mem_append]
    exact ⟨⟨htext pending, hvoid⟩, ih⟩
  | case5 line chunk events ih => exact ih
  | case6 line chunk events first text ih => exact ih
  | case7 pending line events ih =>
    rw [List.forall_mem_append]
    exact ⟨htext pending, ih⟩
  | case8 pending line events ih => exact ih

mutual

/-- A tree whose marks have values has them throughout. -/
theorem valued_of_marks : ∀ (n : Node) (depth : Nat), (∀ m ∈ n.marks, m.Valued) →
    ∀ b ∈ n.preorder depth, b.2.Valued
  | .text value line, depth, h => by
    rw [Node.preorder]
    exact List.forall_mem_singleton.mpr trivial
  | .stray value, depth, h => (h _ List.mem_cons_self).elim
  | .element name attrs children line, depth, h => by
    rw [Node.marks, List.forall_mem_cons, List.forall_mem_append] at h
    rw [Node.preorder, List.forall_mem_cons]
    exact ⟨h.1, valued_of_marksAll children (depth + 1) h.2.1⟩

theorem valued_of_marksAll : ∀ (ns : List Node) (depth : Nat), (∀ m ∈ marksAll ns, m.Valued) →
    ∀ b ∈ preorderAll depth ns, b.2.Valued
  | [], depth, _ => by
    rw [preorderAll]
    exact nofun
  | n :: ns, depth, h => by
    rw [marksAll, List.forall_mem_append] at h
    rw [preorderAll, List.forall_mem_append]
    exact ⟨valued_of_marks n depth h.1, valued_of_marksAll ns depth h.2⟩

end

/-! ## What is wrong with a file -/

/-- The reader gives up on a text, and the tags before that place nest. -/
def GivesUp (text : Text) (f : Markup.Fault) : Prop :=
  ∃ pieces g, Markup.read text = (pieces, some f) ∧
    ({} : Growth).handleAll (locate 1 pieces) = .ok g

/-- Bytes that are no text or that the reader gives up on, with what is raised. -/
inductive Unreadable (bytes : Text.Bytes) : Failure → Prop
  | encoding {f : Text.DecodeFault} (undecoded : Text.decode bytes = .error f) :
    Unreadable bytes (.encoding f)
  | markup {text : Text} {f : Markup.Fault} (decoded : Text.decode bytes = .ok text)
    (givesUp : GivesUp text.unifyLineEnds f) : Unreadable bytes (.markup f)

theorem documentNodes_of_givesUp {content : Text} {f : Markup.Fault} (h : GivesUp content f)
    (file : Text) : documentNodes file content = .error (.markup f) := by
  obtain ⟨pieces, g, hread, hgrown⟩ := h
  simp only [documentNodes, hread, hgrown]

/-- What comes of a text: nodes with values throughout, an error of the template, or
the reader gives up. -/
theorem documentNodes_cases (file content : Text) :
    (∃ nodes, documentNodes file content = .ok nodes ∧ ∀ m ∈ marksAll nodes, m.Valued) ∨
    (∃ e, documentNodes file content = .error (.template e)) ∨
    ∃ f, documentNodes file content = .error (.markup f) ∧ GivesUp content f := by
  rcases hread : Markup.read content with ⟨pieces, fault⟩
  cases hgrown : ({} : Growth).handleAll (locate 1 pieces) with
  | error f =>
    refine .inr (.inl ⟨.unreadable (.nesting f) (some file) (some f.line), ?_⟩)
    simp only [documentNodes, hread, hgrown]
  | ok g =>
    cases fault with
    | some f =>
      have hgives : GivesUp content f := ⟨pieces, g, hread, hgrown⟩
      exact .inr (.inr ⟨f, documentNodes_of_givesUp hgives file, hgives⟩)
    | none =>
      cases hfinish : g.finish with
      | error f =>
        refine .inr (.inl ⟨.unreadable (.nesting f) (some file) (some f.line), ?_⟩)
        simp only [documentNodes, hread, hgrown, hfinish]
      | ok nodes =>
        have hall : grown (locate 1 pieces) = .ok nodes := by
          rw [grown, hgrown]
          exact hfinish
        refine .inl ⟨nodes, ?_, ?_⟩
        · simp only [documentNodes, hread, hgrown, hfinish]
        · rw [marks_of_grown hall]
          exact valued_normalMarks none _

/-- The template found is the one found before or the element, if it is a template. -/
theorem root_of_add {file : Text} {found found' : Findings} {e root : Element}
    (hadd : found.add file e = .ok found') (hroot : found'.root = some root) :
    found.root = some root ∨ root = e ∧ e.name = "template" := by
  unfold Findings.add at hadd
  split at hadd
  · next hname =>
    split at hadd
    · cases hadd
      exact .inr ⟨(Option.some.inj hroot).symm, hname⟩
    · cases hadd
      exact .inl hroot
  · split at hadd
    · split at hadd
      · cases hadd
        exact .inl hroot
      · cases hadd
    · cases hadd
      exact .inl hroot

theorem valued_children_of_element? {n : Node} {e : Element} (he : n.element? = some e)
    (h : ∀ m ∈ n.marks, m.Valued) : ∀ m ∈ marksAll e.children, m.Valued := by
  cases n with
  | text value line => cases he
  | stray value => cases he
  | element name attrs children line =>
    cases he
    rw [Node.marks, List.forall_mem_cons, List.forall_mem_append] at h
    exact h.2.1

/-- The template that is found among nodes has values throughout if they have. -/
theorem gather_cases (file : Text) (found : Findings) (nodes : List Node)
    (hfound : ∀ root ∈ found.root, ∀ m ∈ marksAll root.children, m.Valued)
    (hnodes : ∀ m ∈ marksAll nodes, m.Valued) :
    (∃ t, (gather file found nodes).2 = .ok t ∧ ∀ m ∈ marksAll t.root.children, m.Valued) ∨
    ∃ e, (gather file found nodes).2 = .error (.template e) := by
  induction nodes generalizing found with
  | nil =>
    rw [gather]
    split
    · exact .inr ⟨_, rfl⟩
    · next root hroot => exact .inl ⟨_, rfl, hfound root hroot⟩
  | cons node nodes ih =>
    rw [marksAll, List.forall_mem_append] at hnodes
    rw [gather]
    split
    · exact ih found hfound hnodes.2
    · next e he =>
      cases hadd : found.add file e with
      | error f => exact .inr ⟨_, rfl⟩
      | ok found' =>
        refine ih found' (fun root hroot => ?_) hnodes.2
        rcases root_of_add hadd hroot with hroot | ⟨rfl, -⟩
        · exact hfound root hroot
        · exact valued_children_of_element? he hnodes.1

/-- A template with values throughout fails with an error of the template, if at all. -/
theorem generate_cases (config : Config) (name : Text) {t : Template}
    (h : ∀ m ∈ marksAll t.root.children, m.Valued) :
    (∃ source, t.generate config name = .ok source) ∨
    ∃ e, t.generate config name = .error (.template e) := by
  unfold Template.generate
  cases hbody : (config.renderer t.aliases).component t.root with
  | ok body => exact .inl ⟨_, rfl⟩
  | error f =>
    cases hchildren : t.root.children with
    | nil =>
      -- an empty template is complained about as a whole
      rw [Jsx.Renderer.component, hchildren] at hbody
      cases hbody
      exact .inr ⟨_, rfl⟩
    | cons first others =>
      rw [hchildren, marksAll, List.forall_mem_append] at h
      have hvalued : ∀ n ∈ first.subtree, n.Valued :=
        List.forall_mem_map.mpr (valued_of_marks first 0 h.1)
      rw [Jsx.Renderer.component_eq_error_iff _ hchildren,
        Jsx.Renderer.node_eq_error_iff _ _ _ hvalued] at hbody
      obtain ⟨m, rfl, -⟩ := hbody
      exact .inr ⟨_, rfl⟩

/-- What comes of a file: a module, an error of its template, or it cannot be read. -/
theorem Config.moduleOf_cases (config : Config) (t : Path) (bytes : Text.Bytes) :
    (∃ source, config.moduleOf t bytes = .ok source) ∨
    (∃ e, config.moduleOf t bytes = .error (.template e)) ∨
    ∃ f, config.moduleOf t bytes = .error f ∧ Unreadable bytes f := by
  unfold Config.moduleOf
  cases hdecode : Text.decode bytes with
  | error f => exact .inr (.inr ⟨_, rfl, .encoding hdecode⟩)
  | ok text =>
    simp only [compile, Template.parse]
    rcases documentNodes_cases t.toText text.unifyLineEnds with
      ⟨nodes, hnodes, hvalued⟩ | ⟨e, he⟩ | ⟨f, hf, hgives⟩
    · have hgather := gather_cases t.toText {} nodes nofun hvalued
      simp only [hnodes]
      generalize gather t.toText {} nodes = gathered at hgather ⊢
      obtain ⟨notices, result⟩ := gathered
      rcases hgather with ⟨template, rfl, hroot⟩ | ⟨e, rfl⟩
      · rcases generate_cases config (Jsx.componentName t.stem) hroot with ⟨source, h⟩ | ⟨e, h⟩
        · exact .inl ⟨source, h⟩
        · exact .inr (.inl ⟨e, h⟩)
      · exact .inr (.inl ⟨e, rfl⟩)
    · rw [he]
      exact .inr (.inl ⟨e, rfl⟩)
    · rw [hf]
      exact .inr (.inr ⟨_, rfl, .markup hdecode hgives⟩)

/-- A file that cannot be read has no module under any name and configuration. -/
theorem Unreadable.moduleOf {bytes : Text.Bytes} {f : Failure} (h : Unreadable bytes f)
    (config : Config) (t : Path) : config.moduleOf t bytes = .error f := by
  cases h with
  | encoding undecoded => simp only [Config.moduleOf, undecoded]
  | markup decoded givesUp =>
    simp only [Config.moduleOf, decoded, compile, Template.parse,
      documentNodes_of_givesUp givesUp]

theorem Unreadable.foreign {bytes : Text.Bytes} {f : Failure} (h : Unreadable bytes f) :
    f.Foreign := by
  rintro e rfl
  cases h

end JsxTemplate
