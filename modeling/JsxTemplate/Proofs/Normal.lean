import JsxTemplate.Proofs.Code
import JsxTemplate.Proofs.Respelling
import JsxTemplate.Proofs.Unreadable

/-!
# Trees in normal form

Whatever a text is like, a tree that is read from it has its texts collapsed and filled,
nothing inside void elements, and each attribute once and with a value. The growing tree is
in this form at every event: what is placed never changes again, and the elements that are
still open are not void, so that they may take what comes.
-/

namespace JsxTemplate

open Markup (Event Located)

/-- A node by itself is as reading leaves it. -/
def Node.Normal : Node → Prop
  | .text value _ => value ≠ [] ∧ value.Collapsed
  | .element name attrs children _ =>
    (isVoid name = true → children = []) ∧ (attrs.map Prod.fst).Nodup ∧
      ∀ entry ∈ attrs, entry.2.isSome
  | .stray _ => False

/-- A node is normal, and all nodes below it are. -/
def Node.Normalised (n : Node) : Prop := ∀ m ∈ n.subtree, m.Normal

theorem normalised_text {value : Text} {line : Nat} :
    (Node.text value line).Normalised ↔ value ≠ [] ∧ value.Collapsed :=
  List.forall_mem_singleton

theorem normalised_element {name : Text} {attrs : Attrs} {children : List Node} {line : Nat} :
    (Node.element name attrs children line).Normalised ↔
      (Node.element name attrs children line).Normal ∧ ∀ n ∈ children, n.Normalised := by
  rw [Node.Normalised, Node.subtree_element, List.forall_mem_cons]
  refine and_congr_right fun _ => ?_
  simp only [List.mem_flatMap, forall_exists_index, and_imp]
  exact ⟨fun h n hn m hm => h m n hn hm, fun h m n hn hm => h n hn m hm⟩

theorem Node.toNode_of_element? {n : Node} {e : Element} (h : n.element? = some e) :
    e.toNode = n := by
  cases n with
  | text value line => cases h
  | stray value => cases h
  | element name attrs children line =>
    cases h
    rfl

namespace Growth

variable {g g' : Growth}

/-- The nodes in place and the open elements are normal, and no open element is void. -/
structure Normalised (g : Growth) : Prop where
  placed : ∀ n ∈ g.placed, n.Normalised
  opened : ∀ e ∈ g.stack, isVoid e.name = false ∧ e.toNode.Normalised

theorem attrsOf_normal (attrs : Markup.Attrs) :
    ((attrsOf attrs).map Prod.fst).Nodup ∧ ∀ entry ∈ attrsOf attrs, entry.2.isSome := by
  constructor
  · rw [attrsOf, Table.map_fst_ofEntries]
    exact Table.nodup_eraseDups _
  · intro entry hentry
    obtain ⟨attr, -, rfl⟩ := List.mem_map.mp (Table.mem_of_mem_ofEntries hentry)
    rfl

/-- An element as a tag makes it has no children yet. -/
theorem normalised_tag (name : Text) (attrs : Markup.Attrs) (line : Nat) :
    (Node.element name (attrsOf attrs) [] line).Normalised :=
  normalised_element.mpr ⟨⟨fun _ => rfl, attrsOf_normal attrs⟩, nofun⟩

namespace Normalised

theorem place (h : g.Normalised) {n : Node} (hn : n.Normalised) : (g.place n).Normalised := by
  unfold Growth.place
  split
  · exact ⟨List.forall_mem_append.mpr ⟨h.placed, List.forall_mem_singleton.mpr hn⟩, h.opened⟩
  · next e es hstack =>
    have hopened := h.opened
    rw [hstack, List.forall_mem_cons] at hopened
    obtain ⟨⟨hopen, he⟩, hes⟩ := hopened
    obtain ⟨⟨-, hattrs⟩, hchildren⟩ := normalised_element.mp he
    -- the element is not void, so it may have one child more
    refine ⟨h.placed, List.forall_mem_cons.mpr ⟨⟨hopen, normalised_element.mpr ?_⟩, hes⟩⟩
    refine ⟨⟨fun hvoid => ?_, hattrs⟩, ?_⟩
    · rw [hopen] at hvoid
      cases hvoid
    · exact List.forall_mem_append.mpr ⟨hchildren, List.forall_mem_singleton.mpr hn⟩

theorem flush (h : g.Normalised) : g.flush.Normalised := by
  unfold Growth.flush
  split
  · exact h
  · next line text _ =>
    have hsame : ({ g with pending := none } : Growth).Normalised := ⟨h.placed, h.opened⟩
    simp only
    split
    · exact hsame
    · next hfilled =>
      exact hsame.place (normalised_text.mpr ⟨hfilled, Text.collapsed_collapse text⟩)

theorem addText (h : g.Normalised) (line : Nat) (chunk : Text) :
    (g.addText line chunk).Normalised := by
  unfold Growth.addText
  split
  · exact ⟨h.placed, h.opened⟩
  · exact ⟨h.placed, h.opened⟩

/-- One event leaves the tree normal. -/
theorem handle (h : g.Normalised) {here : Located} (hstep : g.handle here = .ok g') :
    g'.Normalised := by
  obtain ⟨line, event⟩ := here
  cases event with
  | opening name attrs =>
    have htag := normalised_tag name attrs line
    simp only [Growth.handle] at hstep
    split at hstep
    · cases hstep
      exact h.flush.place htag
    · next hvoid =>
      cases hstep
      have hopen : isVoid name = false := Bool.eq_false_iff.mpr hvoid
      exact ⟨h.flush.placed, List.forall_mem_cons.mpr ⟨⟨hopen, htag⟩, h.flush.opened⟩⟩
  | empty name attrs =>
    cases hstep
    exact h.flush.place (normalised_tag name attrs line)
  | closing tag =>
    simp only [Growth.handle] at hstep
    split at hstep
    · cases hstep
      exact h.flush
    · split at hstep
      · cases hstep
      · next e es hstack =>
        split at hstep
        · cases hstep
          have hopened := h.flush.opened
          rw [hstack, List.forall_mem_cons] at hopened
          have hrest : ({ g.flush with stack := es } : Growth).Normalised :=
            ⟨h.flush.placed, hopened.2⟩
          exact hrest.place hopened.1.2
        · cases hstep
  | text chunk =>
    cases hstep
    exact h.addText line chunk
  | comment =>
    cases hstep
    exact h.flush
  | silent =>
    cases hstep
    exact h

/-- A run of events leaves the tree normal. -/
theorem handleAll (h : g.Normalised) {events : List Located}
    (hrun : g.handleAll events = .ok g') : g'.Normalised := by
  induction events generalizing g with
  | nil =>
    cases hrun
    exact h
  | cons here events ih =>
    rw [Growth.handleAll] at hrun
    split at hrun
    · cases hrun
    · next hstep => exact ih (h.handle hstep) hrun

end Normalised

theorem normalised_start : ({} : Growth).Normalised := ⟨nofun, nofun⟩

end Growth

theorem normalised_of_documentNodes {file content : Text} {nodes : List Node}
    (h : documentNodes file content = .ok nodes) : ∀ n ∈ nodes, n.Normalised := by
  unfold documentNodes at h
  simp only at h
  split at h
  · cases h
  · cases h
  · next g hrun _ =>
    have hg := (Growth.normalised_start.handleAll hrun).flush
    split at h
    · next nodes hfinish =>
      cases h
      unfold Growth.finish at hfinish
      split at hfinish
      · cases hfinish
        exact hg.placed
      · cases hfinish
    · cases h

/-- A template is one of the nodes of its file. -/
theorem root_of_gather {file : Text} {found : Findings} {nodes : List Node} {t : Template}
    (h : (gather file found nodes).2 = .ok t) :
    found.root = some t.root ∨ t.root.toNode ∈ nodes ∧ t.root.name = "template" := by
  induction nodes generalizing found with
  | nil =>
    rw [gather] at h
    split at h
    · cases h
    · next root hroot =>
      cases h
      exact .inl hroot
  | cons node nodes ih =>
    rw [gather] at h
    split at h
    · exact (ih h).imp id (And.imp_left (List.mem_cons_of_mem node))
    · next e he =>
      simp only at h
      split at h
      · next found' hadd =>
        rcases ih h with hfound | ⟨hmem, hname⟩
        · rcases root_of_add hadd hfound with hroot | ⟨rfl, hname⟩
          · exact .inl hroot
          · refine .inr ⟨?_, hname⟩
            rw [Node.toNode_of_element? he]
            exact List.mem_cons_self
        · exact .inr ⟨List.mem_cons_of_mem node hmem, hname⟩
      · cases h

theorem root_of_parse {file content : Text} {notices : List Notice} {t : Template}
    (h : Template.parse file content = (notices, .ok t)) :
    ∃ nodes, documentNodes file content = .ok nodes ∧ t.root.toNode ∈ nodes ∧
      t.root.name = "template" := by
  unfold Template.parse at h
  split at h
  · next nodes hnodes =>
    have hgather : (gather file {} nodes).2 = .ok t := congrArg Prod.snd h
    exact ⟨nodes, hnodes, (root_of_gather hgather).resolve_left (by intro h; cases h)⟩
  · cases h

/-! ## Lines of text -/

namespace Binding

/-- Rendered text has no characters but its own, and spaces. -/
theorem of_mem_textParts {parts : List Part} {t : Text} (h : Part.Spaced parts t) {c : Char}
    (hc : c ∈ parts.flatMap textPart) : c ∈ t ∨ c = ' ' := by
  induction h with
  | nil => cases hc
  | literal _ ih =>
    rw [List.flatMap_cons, List.mem_append] at hc
    rcases hc with hc | hc
    · exact .inl (List.mem_append_left _ hc)
    · exact (ih hc).imp_left (List.mem_append_right _)
  | binding _ _ _ _ ih =>
    rw [List.flatMap_cons, List.mem_append] at hc
    rcases hc with hc | hc
    · simp only [textPart, braced, Part.openMark, Part.closeMark, List.mem_append, List.mem_cons,
        List.not_mem_nil, or_false] at hc ⊢
      tauto
    · exact (ih hc).imp_left (List.mem_append_right _)

theorem of_mem_resolveText {value : Text} {c : Char} (hc : c ∈ resolveText value) :
    c ∈ value ∨ c = ' ' := by
  rw [resolveText_eq] at hc
  exact of_mem_textParts (Part.spaced_lexFrom [] value) hc

end Binding

/-- A line feed ends the text, and there is no other in it. -/
def IsLine (s : Text) : Prop := ∃ body, s = body ++ ['\n'] ∧ '\n' ∉ body

theorem isLine_textLine {indent value : Text} (hindent : '\n' ∉ indent)
    (hvalue : value.Collapsed) : IsLine (Jsx.textLine indent value) := by
  refine ⟨indent ++ Binding.resolveText value, rfl, fun hmem => ?_⟩
  rcases List.mem_append.mp hmem with hmem | hmem
  · exact hindent hmem
  · rcases Binding.of_mem_resolveText hmem with hmem | hspace
    · have hspaces := List.all_eq_true.mp hvalue.spaces '\n' hmem
      exact absurd hspaces (by decide)
    · exact absurd hspace (by decide)

/-- Every tree that is read is in normal form: it is a template, its texts are filled and
collapsed, its void elements are empty, and its attributes are there once and have values.
So each of its texts is rendered on one line. -/
theorem parsed_normal {file content : Text} {notices : List Notice} {t : Template}
    (hparse : Template.parse file content = (notices, .ok t)) :
    t.root.name = "template" ∧
    (∀ n ∈ t.root.toNode.subtree, n.Normal) ∧
    ∀ (r : Jsx.Renderer) (indent : Text) (direct : Bool), '\n' ∉ indent →
      ∀ value line, .text value line ∈ t.root.toNode.subtree →
        ∃ rendered, r.node indent direct (.text value line) = .ok rendered ∧ IsLine rendered := by
  obtain ⟨nodes, hnodes, hmem, hname⟩ := root_of_parse hparse
  have hnormal := normalised_of_documentNodes hnodes _ hmem
  refine ⟨hname, hnormal, fun r indent direct hindent value line htext => ?_⟩
  have hcollapsed : value.Collapsed := (hnormal _ htext).2
  exact ⟨_, by rw [Jsx.Renderer.node], isLine_textLine hindent hcollapsed⟩

/-- A page with attributes given twice and without a value, references and tags that are not
finished, a comment inside a text and the closing tag of a void element. -/
def unfinishedPage : Text :=
  "<template>\n a <b x=1 X y>c\t&amp <!-- - --> d</b><br>e</br>\n</template> &# ; <i"

def Node.text? : Node → Option Text
  | .text value _ => some value
  | _ => none

theorem unfinishedPage_normal :
    ∃ notices t line rendered,
      Template.parse "p.html" unfinishedPage = (notices, .ok t) ∧
      t.root.toNode.subtree.filterMap Node.text? =
        [("a" : Text), ("c &amp;" : Text), ("d" : Text), ("e" : Text)] ∧
      t.root.name = "template" ∧ (∀ n ∈ t.root.toNode.subtree, n.Normal) ∧
      .text "c &amp;" line ∈ t.root.toNode.subtree ∧ '\n' ∉ [' ', ' '] ∧
      Jsx.Renderer.node {} [' ', ' '] false (.text "c &amp;" line) = .ok rendered ∧
      IsLine rendered := by
  have htexts : ((Template.parse "p.html" unfinishedPage).2.toOption.map fun t =>
      t.root.toNode.subtree.filterMap Node.text?) =
        some [("a" : Text), ("c &amp;" : Text), ("d" : Text), ("e" : Text)] := by
    decide +kernel
  cases ht : (Template.parse "p.html" unfinishedPage).2 with
  | error _ =>
    rw [ht] at htexts
    cases htexts
  | ok t =>
    rw [ht] at htexts
    have htexts : t.root.toNode.subtree.filterMap Node.text? = _ := Option.some.inj htexts
    have hparse : Template.parse "p.html" unfinishedPage =
        ((Template.parse "p.html" unfinishedPage).1, .ok t) := Prod.ext rfl ht
    have hmem : ("c &amp;" : Text) ∈ t.root.toNode.subtree.filterMap Node.text? := by
      rw [htexts]
      exact List.mem_cons_of_mem _ List.mem_cons_self
    obtain ⟨n, hn, htext⟩ := List.mem_filterMap.mp hmem
    obtain ⟨hname, hnormal, hlines⟩ := parsed_normal hparse
    cases n with
    | element name attrs children line => cases htext
    | stray value => cases htext
    | text value line =>
      cases htext
      have hindent : '\n' ∉ [' ', ' '] := by decide
      obtain ⟨rendered, hrendered, hline⟩ := hlines {} [' ', ' '] false hindent _ line hn
      exact ⟨_, t, line, rendered, hparse, htexts, hname, hnormal, hn, hindent, hrendered, hline⟩

end JsxTemplate
