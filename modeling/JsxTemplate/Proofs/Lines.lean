import JsxTemplate.Proofs.Ampersands
import JsxTemplate.Proofs.Imports
import JsxTemplate.Proofs.Normal

/-!
# Lines of tags

The reader counts lines piece by piece. Its pieces spell the text in order, so that each one
begins at an offset of the text, and the line counted for it is one more than the line feeds
before this offset. The growing tree takes lines over from its events: those of elements and
of faults are the lines of their own tags.
-/

namespace JsxTemplate

open Markup (Event Located Piece)

/-! ## Pieces spell the text -/

namespace Markup

theorem Piece.between_append {s rest : Text} (h : rest <:+ s) (event : Event) :
    (Piece.between s rest event).raw ++ rest = s := by
  obtain ⟨t, rfl⟩ := h
  simp [Piece.between]

def Event.isTag : Event → Bool
  | .opening _ _ | .empty _ _ | .closing _ => true
  | _ => false

/-- A pass stops where it is, or behind something that is no tag. -/
theorem step_eq_stop {closing : Bool} {mode : Mode} {s rest : Text} {last : Option Event}
    (h : step closing mode s = .stop last rest) :
    last = none ∧ rest = s ∨ ∃ event, last = some event ∧ event.isTag = false := by
  unfold step at h
  split at h
  · cases h
    exact .inl ⟨rfl, rfl⟩
  · unfold rawStep at h
    split at h
    · cases h
      exact .inl ⟨rfl, rfl⟩
    · cases h
    · cases h
  · unfold bracketStep at h
    split at h
    · cases h
    · cases h
    · split at h
      · unfold giveUp at h
        split at h
        · cases h
        · split at h <;> cases h
      · cases h
        exact .inl ⟨rfl, rfl⟩
    · split at h
      · next hs =>
        cases h
        exact .inl ⟨rfl, by rw [hs]⟩
      · cases h
  · unfold ampersandStep at h
    split at h
    · cases h
      exact .inl ⟨rfl, rfl⟩
    · split at h
      · cases h
      · split at h
        · cases h
          exact .inr ⟨_, rfl, rfl⟩
        · cases h
          exact .inl ⟨rfl, rfl⟩
    · split at h
      · split at h
        · cases h
        · split at h
          · cases h
            exact .inr ⟨_, rfl, rfl⟩
          · cases h
            exact .inl ⟨rfl, rfl⟩
      · cases h
  · cases h

/-- What a pass has read and what it leaves make up the text. -/
theorem spells_pass (closing : Bool) (mode : Mode) (s : Text) :
    (pass closing mode s).pieces.flatMap Piece.raw ++ (pass closing mode s).rest = s := by
  fun_induction pass closing mode s with
  | case1 mode s event mode' rest hmoved more ih =>
    have hwithin := step_within closing mode s
    rw [hmoved] at hwithin
    rw [List.flatMap_cons, List.append_assoc, ih]
    exact Piece.between_append hwithin event
  | case2 mode s last rest hmoved =>
    have hwithin := step_within closing mode s
    rw [hmoved] at hwithin
    rcases step_eq_stop hmoved with ⟨rfl, rfl⟩ | ⟨event, rfl, -⟩
    · rfl
    · rw [Option.toList_some, List.map_singleton, List.flatMap_singleton]
      exact Piece.between_append hwithin event
  | case3 mode s f hmoved => rfl

/-- The pieces of a text spell it, up to where the reader gives up on it. -/
theorem spells_read (s : Text) : (read s).1.flatMap Piece.raw <+: s := by
  have hfirst := spells_pass false .markup s
  have hsecond := spells_pass true (pass false .markup s).mode (pass false .markup s).rest
  unfold read
  simp only
  split
  · exact ⟨_, hfirst⟩
  · split
    · rw [← hsecond, ← List.append_assoc, ← List.flatMap_append] at hfirst
      exact ⟨_, hfirst⟩
    · rw [List.flatMap_append, List.flatMap_append]
      rw [← hsecond, ← List.append_assoc] at hfirst
      refine ⟨[], ?_⟩
      rw [List.append_nil]
      refine Eq.trans (congrArg _ ?_) hfirst
      unfold Pass.remainder
      split
      · next hrest => rw [hrest]; rfl
      · rw [List.flatMap_singleton]
      · rw [List.flatMap_singleton]

/-! ## Offsets -/

/-- The events of some pieces, each with the offset at which its piece begins. -/
def offsets (start : Nat) : List Piece → List (Nat × Event)
  | [] => []
  | p :: ps => (start, p.event) :: offsets (start + p.raw.length) ps

/-- The events of a text and where in it they begin. -/
def eventsAt (content : Text) : List (Nat × Event) := offsets 0 (read content).1

/-- The line of an offset: one more than the line feeds before it. -/
def lineAt (content : Text) (offset : Nat) : Nat := 1 + (content.take offset).count '\n'

/-- An event on the line of its offset. -/
def locatedAt (content : Text) : Nat × Event → Located
  | (offset, event) => ⟨lineAt content offset, event⟩

theorem locate_eq_offsets (after : Text) : ∀ (ps : List Piece) (before : Text),
    locate (1 + before.count '\n') ps =
      (offsets before.length ps).map (locatedAt (before ++ ps.flatMap Piece.raw ++ after))
  | [], before => rfl
  | p :: ps, before => by
    have ih := locate_eq_offsets after ps (before ++ p.raw)
    rw [List.count_append, List.length_append, ← Nat.add_assoc] at ih
    rw [locate, offsets, List.map_cons, List.flatMap_cons, ih]
    simp [locatedAt, lineAt]

/-- Lines that are counted off along the pieces are those of the offsets. -/
theorem locate_read (content : Text) :
    locate 1 (read content).1 = (eventsAt content).map (locatedAt content) := by
  obtain ⟨after, hafter⟩ := spells_read content
  have h := locate_eq_offsets after (read content).1 []
  rwa [List.nil_append, hafter] at h

theorem mem_offsets {start : Nat} {ps : List Piece} {offset : Nat} {event : Event}
    (h : (offset, event) ∈ offsets start ps) :
    ∃ before p after, ps = before ++ p :: after ∧ p.event = event ∧
      offset = start + (before.flatMap Piece.raw).length := by
  induction ps generalizing start with
  | nil => cases h
  | cons p ps ih =>
    rcases List.mem_cons.mp h with heq | hmem
    · cases heq
      exact ⟨[], p, ps, rfl, rfl, rfl⟩
    · obtain ⟨before, q, after, rfl, hq, rfl⟩ := ih hmem
      refine ⟨p :: before, q, after, rfl, hq, ?_⟩
      rw [List.flatMap_cons, List.length_append, Nat.add_assoc]

theorem offsets_ordered (start : Nat) (ps : List Piece) :
    ((offsets start ps).map Prod.fst).Pairwise (· ≤ ·) := by
  induction ps generalizing start with
  | nil => exact .nil
  | cons p ps ih =>
    refine List.pairwise_cons.mpr ⟨fun offset hmem => ?_, ih _⟩
    obtain ⟨⟨offset, event⟩, hevent, rfl⟩ := List.mem_map.mp hmem
    obtain ⟨before, q, after, -, -, rfl⟩ := mem_offsets hevent
    omega

/-! ## Where tags begin -/

/-- A tag stands at the start of a text. -/
inductive TagAt : Event → Text → Prop
  | markup {event : Event} {s rest : Text} (h : readMarkup s = some (.done event rest)) :
      TagAt event ('<' :: s)
  /-- The tag that ends raw text. -/
  | raw {name s rest : Text} (h : rawEnd? name s = some rest) : TagAt (.closing name) s

theorem not_tag_of_ampersandStep {closing : Bool} {s rest : Text} {event : Event} {mode : Mode}
    (h : ampersandStep closing s = .take event mode rest) : event.isTag = false := by
  unfold ampersandStep at h
  split at h
  · cases h
  · split at h
    · cases h
      rfl
    · split at h <;> cases h
  · split at h
    · split at h
      · cases h
        rfl
      · split at h <;> cases h
    · cases h
      rfl

theorem not_tag_of_giveUp {s rest : Text} {event : Event} {mode : Mode}
    (h : giveUp s = .take event mode rest) : event.isTag = false := by
  unfold giveUp at h
  split at h
  · cases h
    rfl
  · split at h
    · cases h
      rfl
    · cases h
      rfl

theorem tagAt_of_step {closing : Bool} {mode mode' : Mode} {s rest : Text} {event : Event}
    (h : step closing mode s = .take event mode' rest) (htag : event.isTag = true) :
    TagAt event s := by
  unfold step at h
  split at h
  · cases h
  · unfold rawStep at h
    split at h
    · cases h
    · next hsearch =>
      cases h
      obtain ⟨here, rfl, hend⟩ := Text.eq_append_of_search hsearch
      exact .raw hend
    · cases h
      cases htag
  · unfold bracketStep at h
    split at h
    · next hdone =>
      cases h
      exact .markup hdone
    · cases h
    · split at h
      · rw [not_tag_of_giveUp h] at htag
        cases htag
      · cases h
    · split at h
      · cases h
      · cases h
        cases htag
  · rw [not_tag_of_ampersandStep h] at htag
    cases htag
  · cases h
    cases htag

/-- The tags of a pass stand at their offsets, whatever has been read before. -/
theorem tagAt_of_pass (closing : Bool) (mode : Mode) (s before : Text) :
    ∀ here ∈ offsets before.length (pass closing mode s).pieces, here.2.isTag = true →
      TagAt here.2 ((before ++ s).drop here.1) := by
  fun_induction pass closing mode s generalizing before with
  | case1 mode s event mode' rest hmoved more ih =>
    refine List.forall_mem_cons.mpr ⟨fun htag => ?_, ?_⟩
    · show TagAt event ((before ++ s).drop before.length)
      rw [List.drop_left]
      exact tagAt_of_step hmoved htag
    · -- what has been read before the rest is longer by the piece
      have hwithin := step_within closing mode s
      rw [hmoved] at hwithin
      have hmore := ih (before ++ (Piece.between s rest event).raw)
      rwa [List.length_append, List.append_assoc, Piece.between_append hwithin] at hmore
  | case2 mode s last rest hmoved =>
    rcases step_eq_stop hmoved with ⟨rfl, -⟩ | ⟨event, rfl, hnot⟩
    · exact List.forall_mem_nil _
    · refine List.forall_mem_singleton.mpr fun htag => ?_
      rw [show (Piece.between s rest event).event = event from rfl, hnot] at htag
      cases htag
  | case3 mode s f hmoved => exact List.forall_mem_nil _

theorem offsets_append (ps qs : List Piece) (start : Nat) :
    offsets start (ps ++ qs) =
      offsets start ps ++ offsets (start + (ps.flatMap Piece.raw).length) qs := by
  induction ps generalizing start with
  | nil => rfl
  | cons p ps ih =>
    rw [List.cons_append, offsets, offsets, ih, List.flatMap_cons, List.length_append,
      Nat.add_assoc, List.cons_append]

theorem not_tag_of_remainder (p : Pass) : ∀ piece ∈ p.remainder, piece.event.isTag = false := by
  unfold Pass.remainder
  split
  · exact List.forall_mem_nil _
  · exact List.forall_mem_singleton.mpr rfl
  · exact List.forall_mem_singleton.mpr rfl

/-- The tags of a text stand at their offsets. -/
theorem tagAt_of_eventsAt {content : Text} {offset : Nat} {event : Event}
    (h : (offset, event) ∈ eventsAt content) (htag : event.isTag = true) :
    TagAt event (content.drop offset) := by
  have hspelled := spells_pass false .markup content
  have hfirst := tagAt_of_pass false .markup content []
  have hsecond := tagAt_of_pass true (pass false .markup content).mode
    (pass false .markup content).rest ((pass false .markup content).pieces.flatMap Piece.raw)
  rw [hspelled, ← Nat.zero_add (List.length _)] at hsecond
  have hboth := List.forall_mem_append.mpr ⟨hfirst, hsecond⟩
  rw [List.length_nil, ← offsets_append] at hboth
  unfold eventsAt read at h
  simp only at h
  split at h
  · exact hfirst _ h htag
  · split at h
    · exact hboth _ h htag
    · rw [offsets_append, List.mem_append] at h
      rcases h with h | h
      · exact hboth _ h htag
      · obtain ⟨_, piece, _, hpieces, rfl, -⟩ := mem_offsets h
        have hnot := not_tag_of_remainder _ piece (by rw [hpieces]; simp)
        rw [hnot] at htag
        cases htag

end Markup

/-! ## Lines in a tree -/

/-- The mark with which a node begins. -/
def Node.mark : Node → Mark
  | .text value line => .text value line
  | .element name attrs _ line => .enter name attrs line
  | .stray value => .stray value

mutual

/-- The marks of a node that are no ends are those of the nodes at and below it. -/
theorem filterMap_marks {β : Type} {f : Mark → Option β} (hleave : ∀ name, f (.leave name) = none) :
    ∀ n : Node, n.marks.filterMap f = n.subtree.filterMap fun m => f m.mark
  | .text value line => rfl
  | .stray value => rfl
  | .element name attrs children line => by
    have hend : [Mark.leave name].filterMap f = [] := List.filterMap_cons_none (hleave name)
    rw [Node.marks, Node.subtree_element, List.filterMap_cons, List.filterMap_cons,
      List.filterMap_append, hend, List.append_nil, filterMap_marksAll hleave children]
    rfl

theorem filterMap_marksAll {β : Type} {f : Mark → Option β}
    (hleave : ∀ name, f (.leave name) = none) :
    ∀ ns : List Node,
      (marksAll ns).filterMap f = (ns.flatMap Node.subtree).filterMap fun m => f m.mark
  | [] => rfl
  | n :: ns => by
    rw [marksAll, List.flatMap_cons, List.filterMap_append, List.filterMap_append,
      filterMap_marks hleave n, filterMap_marksAll hleave ns]

end

/-- What a tag says of its element, and the line. -/
abbrev Heading := Text × Attrs × Nat

def Mark.heading? : Mark → Option Heading
  | .enter name attrs line => some (name, attrs, line)
  | _ => none

def Mark.line? : Mark → Option Nat
  | .enter _ _ line | .text _ line => some line
  | _ => none

def Node.heading? (n : Node) : Option Heading := n.mark.heading?

def Node.line? (n : Node) : Option Nat := n.mark.line?

/-- The heading that an event gives an element. -/
def Markup.Located.heading? (here : Located) : Option Heading :=
  match here.event with
  | .opening name attrs | .empty name attrs => some (name, settled attrs, here.line)
  | _ => none

theorem line_of_heading? {here : Located} {name : Text} {attrs : Attrs} {line : Nat}
    (h : here.heading? = some (name, attrs, line)) : here.line = line := by
  unfold Located.heading? at h
  split at h
  · exact congrArg (fun heading : Heading => heading.2.2) (Option.some.inj h)
  · exact congrArg (fun heading : Heading => heading.2.2) (Option.some.inj h)
  · cases h

theorem heading?_textMarks (pending : Option (Nat × Text)) :
    (textMarks pending).filterMap Mark.heading? = [] := by
  unfold textMarks
  split
  · rfl
  · split <;> rfl

/-- The elements of a tree are begun by the tags that begin one, in order. -/
theorem heading?_normalMarks (pending : Option (Nat × Text)) (events : List Located) :
    (normalMarks pending events).filterMap Mark.heading? = events.filterMap Located.heading? := by
  fun_induction normalMarks pending events with
  | case1 pending => exact heading?_textMarks pending
  | case2 pending line name attrs events ih =>
    have hends : (if isVoid name then [Mark.leave name] else []).filterMap Mark.heading? = [] := by
      split <;> rfl
    rw [List.filterMap_append, heading?_textMarks, List.filterMap_cons, List.filterMap_append,
      hends, ih]
    rfl
  | case3 pending line name attrs events ih =>
    rw [List.filterMap_append, heading?_textMarks, List.filterMap_cons, List.filterMap_cons, ih]
    rfl
  | case4 pending line name events ih =>
    have hends : (if isVoid name then [] else [Mark.leave name]).filterMap Mark.heading? = [] := by
      split <;> rfl
    rw [List.filterMap_append, List.filterMap_append, heading?_textMarks, hends, ih]
    rfl
  | case5 line chunk events ih => exact ih
  | case6 line chunk events first text ih => exact ih
  | case7 pending line events ih =>
    rw [List.filterMap_append, heading?_textMarks, ih]
    rfl
  | case8 pending line events ih => exact ih

theorem line?_textMarks (pending : Option (Nat × Text)) :
    ((textMarks pending).filterMap Mark.line?).Sublist (pending.map Prod.fst).toList := by
  unfold textMarks
  split
  · exact .refl _
  · split
    · exact List.nil_sublist _
    · exact .refl _

/-- The lines of a tree are lines of its events, in order. -/
theorem line?_normalMarks (pending : Option (Nat × Text)) (events : List Located) :
    ((normalMarks pending events).filterMap Mark.line?).Sublist
      ((pending.map Prod.fst).toList ++ events.map Located.line) := by
  fun_induction normalMarks pending events with
  | case1 pending =>
    rw [List.map_nil, List.append_nil]
    exact line?_textMarks pending
  | case2 pending line name attrs events ih =>
    have hends : (if isVoid name then [Mark.leave name] else []).filterMap Mark.line? = [] := by
      split <;> rfl
    rw [List.filterMap_append, List.filterMap_cons, List.filterMap_append, hends]
    exact (line?_textMarks pending).append (ih.cons_cons line)
  | case3 pending line name attrs events ih =>
    rw [List.filterMap_append, List.filterMap_cons, List.filterMap_cons]
    exact (line?_textMarks pending).append (ih.cons_cons line)
  | case4 pending line name events ih =>
    have hends : (if isVoid name then [] else [Mark.leave name]).filterMap Mark.line? = [] := by
      split <;> rfl
    rw [List.filterMap_append, List.filterMap_append, hends, List.append_nil]
    exact (line?_textMarks pending).append (ih.cons line)
  | case5 line chunk events ih => exact ih
  | case6 line chunk events first text ih =>
    exact ih.trans ((List.sublist_cons_self _ _).append_left _)
  | case7 pending line events ih =>
    rw [List.filterMap_append]
    exact (line?_textMarks pending).append (ih.cons line)
  | case8 pending line events ih => exact ih.trans ((List.sublist_cons_self _ _).append_left _)

/-! ## Lines of a document -/

open Markup (eventsAt lineAt locatedAt)

/-- The events of a text, each on the line of its offset. -/
def Markup.located (content : Text) : List Located := (eventsAt content).map (locatedAt content)

/-- A document is grown from the events of its text, and its faults are found there. -/
theorem documentNodes_grown (file content : Text) :
    (∃ nodes, documentNodes file content = .ok nodes ∧
      grown (Markup.located content) = .ok nodes) ∨
    (∃ f, documentNodes file content =
        .error (.template (.unreadable (.nesting f) (some file) (some f.line))) ∧
      grown (Markup.located content) = .error f) ∨
    ∃ f, documentNodes file content = .error (.markup f) := by
  rw [Markup.located, ← Markup.locate_read, grown, documentNodes]
  rcases Markup.read content with ⟨pieces, fault⟩
  cases hrun : ({} : Growth).handleAll (Markup.locate 1 pieces) with
  | error f => exact .inr (.inl ⟨f, by simp only [hrun], rfl⟩)
  | ok g =>
    cases fault with
    | some f => exact .inr (.inr ⟨f, by simp only [hrun]⟩)
    | none =>
      cases hfinish : g.finish with
      | ok nodes => exact .inl ⟨nodes, by simp only [hrun, hfinish], hfinish⟩
      | error f => exact .inr (.inl ⟨f, by simp only [hrun, hfinish], hfinish⟩)

theorem grown_of_documentNodes {file content : Text} {nodes : List Node}
    (h : documentNodes file content = .ok nodes) : grown (Markup.located content) = .ok nodes := by
  rcases documentNodes_grown file content with ⟨nodes', hnodes, hgrown⟩ | ⟨f, hf, -⟩ | ⟨f, hf⟩
  · rw [h] at hnodes
    cases hnodes
    exact hgrown
  · rw [h] at hf
    cases hf
  · rw [h] at hf
    cases hf

/-- The elements of a document in order, with their lines, are the tags of its text that
begin an element, on the lines where they begin. -/
theorem headings_of_documentNodes {file content : Text} {nodes : List Node}
    (h : documentNodes file content = .ok nodes) :
    (nodes.flatMap Node.subtree).filterMap Node.heading? =
      (Markup.located content).filterMap Located.heading? := by
  have hmarks := marks_of_grown (grown_of_documentNodes h)
  have hheads := filterMap_marksAll (f := Mark.heading?) (fun _ => rfl) nodes
  rw [hmarks, heading?_normalMarks] at hheads
  exact hheads.symm

theorem lines_of_documentNodes {file content : Text} {nodes : List Node}
    (h : documentNodes file content = .ok nodes) :
    ((nodes.flatMap Node.subtree).filterMap Node.line?).Sublist
      ((eventsAt content).map fun here => lineAt content here.1) := by
  have hmarks := marks_of_grown (grown_of_documentNodes h)
  have hlines := filterMap_marksAll (f := Mark.line?) (fun _ => rfl) nodes
  have hsub := line?_normalMarks none (Markup.located content)
  rw [← hmarks, hlines, Markup.located, List.map_map] at hsub
  exact hsub

theorem lineAt_le_lineAt (content : Text) {i j : Nat} (h : i ≤ j) :
    lineAt content i ≤ lineAt content j :=
  Nat.add_le_add_left ((List.take_sublist_take_left h).count_le _) 1

/-- No line lies behind the last one. -/
theorem lineAt_le (content : Text) (offset : Nat) :
    lineAt content offset ≤ 1 + content.count '\n' :=
  Nat.add_le_add_left ((List.take_sublist _ _).count_le _) 1

theorem ordered_lines (content : Text) :
    ((eventsAt content).map fun here => lineAt content here.1).Pairwise (· ≤ ·) := by
  have hoffsets := Markup.offsets_ordered 0 (Markup.read content).1
  rw [List.pairwise_map] at hoffsets ⊢
  exact hoffsets.imp (lineAt_le_lineAt content)

/-! ## Lines of faults -/

/-- A fault of nesting and its wording, told from the tags of a text: which tag is at fault,
which one it should close, and the lines on which they begin. -/
inductive FaultAt (content : Text) : NestingFault → Text → Prop
  | unexpected {before after : List (Nat × Event)} {offset : Nat} {tag : Text}
      (split : eventsAt content = before ++ (offset, .closing tag) :: after)
      (matched : Balanced (brackets (before.map (locatedAt content)))) :
      FaultAt content (.unexpected tag (lineAt content offset))
        ("Unexpected closing tag </" ++ tag ++ ">")
  | mismatched {before inner after : List (Nat × Event)} {start offset : Nat} {name tag : Text}
      {attrs : Markup.Attrs} {stack : List (Text × Nat)}
      (split : eventsAt content =
        before ++ (start, .opening name attrs) :: inner ++ (offset, .closing tag) :: after)
      (around : Unclosed (brackets (before.map (locatedAt content))) stack)
      (matched : Balanced (brackets (inner.map (locatedAt content)))) (other : name ≠ tag) :
      FaultAt content (.mismatched name (lineAt content start) tag (lineAt content offset))
        ("Expected </" ++ name ++ "> (opened on line " ++ Text.ofNat (lineAt content start) ++
          ") but found </" ++ tag ++ ">")
  | unclosed {before inner : List (Nat × Event)} {start : Nat} {name : Text}
      {attrs : Markup.Attrs} {stack : List (Text × Nat)}
      (split : eventsAt content = before ++ (start, .opening name attrs) :: inner)
      (around : Unclosed (brackets (before.map (locatedAt content))) stack)
      (matched : Balanced (brackets (inner.map (locatedAt content)))) :
      FaultAt content (.unclosed name (lineAt content start)) ("Unclosed element <" ++ name ++ ">")

/-- What is found among events with their lines is found where one of them begins. -/
theorem exists_split_of_filterMap {β : Type} {g : Located → Option β} {content : Text}
    {events : List (Nat × Event)} {bs cs : List β} {b : β}
    (h : (events.map (locatedAt content)).filterMap g = bs ++ b :: cs) :
    ∃ before offset event after, events = before ++ (offset, event) :: after ∧
      (before.map (locatedAt content)).filterMap g = bs ∧
      g ⟨lineAt content offset, event⟩ = some b ∧
      (after.map (locatedAt content)).filterMap g = cs := by
  rw [List.filterMap_map, List.filterMap_eq_append_iff] at h
  obtain ⟨us, vs, rfl, hus, hvs⟩ := h
  obtain ⟨ws, ⟨offset, event⟩, after, rfl, hws, hb, hafter⟩ := List.filterMap_eq_cons_iff.mp hvs
  refine ⟨us ++ ws, offset, event, after, by rw [List.append_assoc], ?_, hb, ?_⟩
  · rw [List.filterMap_map, List.filterMap_append, hus, List.filterMap_eq_nil_iff.mpr hws,
      List.append_nil]
  · rw [List.filterMap_map]
    exact hafter

theorem closing_of_bracket? {here : Located} {tag : Text} {line : Nat}
    (h : bracket? here = some (.closes tag line)) : here = ⟨line, .closing tag⟩ := by
  obtain ⟨line', event⟩ := here
  unfold bracket? at h
  split at h
  · split at h <;> cases h
  · next hevent =>
    split at h
    · cases h
    · cases h
      rw [← hevent]
  · cases h

theorem opening_of_bracket? {here : Located} {name : Text} {line : Nat}
    (h : bracket? here = some (.opens name line)) :
    ∃ attrs, here = ⟨line, .opening name attrs⟩ := by
  obtain ⟨line', event⟩ := here
  unfold bracket? at h
  split at h
  · next attrs hevent =>
    split at h
    · cases h
    · cases h
      exact ⟨attrs, by rw [← hevent]⟩
  · split at h <;> cases h
  · cases h

/-- The innermost element left open is begun by a tag of the text. -/
theorem exists_split_of_unclosed {content : Text} {events : List (Nat × Event)}
    {stack : List (Text × Nat)} {name : Text} {line : Nat}
    (h : Unclosed (brackets (events.map (locatedAt content))) ((name, line) :: stack)) :
    ∃ before start attrs inner, events = before ++ (start, .opening name attrs) :: inner ∧
      lineAt content start = line ∧
      Unclosed (brackets (before.map (locatedAt content))) stack ∧
      Balanced (brackets (inner.map (locatedAt content))) := by
  generalize hbs : brackets (events.map (locatedAt content)) = bs at h
  cases h with
  | opened _ _ haround hinner =>
    obtain ⟨before, start, event, inner, rfl, rfl, hb, rfl⟩ := exists_split_of_filterMap hbs
    obtain ⟨attrs, hevent⟩ := opening_of_bracket? hb
    cases hevent
    exact ⟨before, start, attrs, inner, rfl, rfl, haround, hinner⟩

/-- Where the events of a text fail to nest, the tags at fault are found in it. -/
theorem faultAt_of_grown {content : Text} {f : NestingFault}
    (h : grown (Markup.located content) = .error f) : FaultAt content f f.message := by
  have hfaulty := (grown_eq_error_iff _ _).mp h
  cases hfaulty with
  | unexpected split hb =>
    obtain ⟨before, offset, event, after, hsplit, rfl, hb', -⟩ := exists_split_of_filterMap split
    cases closing_of_bracket? hb'
    exact .unexpected hsplit hb
  | mismatched split hopen other =>
    obtain ⟨before, offset, event, after, hsplit, rfl, hb', -⟩ := exists_split_of_filterMap split
    cases closing_of_bracket? hb'
    obtain ⟨outer, start, attrs, inner, rfl, rfl, haround, hinner⟩ := exists_split_of_unclosed hopen
    exact .mismatched hsplit haround hinner other
  | unclosed hopen =>
    obtain ⟨outer, start, attrs, inner, hsplit, rfl, haround, hinner⟩ :=
      exists_split_of_unclosed hopen
    exact .unclosed hsplit haround hinner

/-! ## Lines of imports -/

theorem import_of_add_error {file : Text} {found : Findings} {e : Element} {fault : TemplateFault}
    (h : found.add file e = .error fault) :
    e.isImport = true ∧ e.componentImport = .error fault := by
  unfold Findings.add at h
  split at h
  · split at h <;> cases h
  · split at h
    · next hlink =>
      split at h
      · cases h
      · next f hf =>
        cases h
        exact ⟨decide_eq_true hlink, hf⟩
    · cases h

theorem gather_of_add_ok {file : Text} {found found' : Findings} {e : Element}
    (h : found.add file e = .ok found') (nodes : List Node) :
    gather file found (e.toNode :: nodes) = gather file found' nodes := by
  rw [gather]
  simp only [Element.toNode, Node.element?, h]

theorem gather_of_add_error {file : Text} {found : Findings} {e : Element} {fault : TemplateFault}
    (h : found.add file e = .error fault) (nodes : List Node) :
    gather file found (e.toNode :: nodes) = (found.notices, .error (.template
      (.unreadable fault (if file = [] then none else some file) (some e.line)))) := by
  rw [gather]
  simp only [Element.toNode, Node.element?, h]

/-- A file without a template apart, an error among its nodes is that of the first link
that imports nothing. -/
theorem error_of_gather {file : Text} {found : Findings} {nodes : List Node}
    {fault : TemplateFault} {blame : Option Text} {line : Option Nat}
    (h : (gather file found nodes).2 = .error (.template (.unreadable fault blame line))) :
    fault = .noTemplate ∧ line = none ∨
    ∃ earlier link later, nodes = earlier ++ Element.toNode link :: later ∧
      (∀ e ∈ importLinks earlier, ∃ i, e.componentImport = .ok i) ∧
      link.isImport = true ∧ link.componentImport = .error fault ∧ line = some link.line := by
  induction nodes generalizing found with
  | nil =>
    rw [gather] at h
    split at h
    · cases h
      exact .inl ⟨rfl, rfl⟩
    · cases h
  | cons node nodes ih =>
    cases hnode : node.element? with
    | none =>
      rw [gather, hnode] at h
      rcases ih h with hnone | ⟨earlier, link, later, rfl, hearlier, hlink⟩
      · exact .inl hnone
      · refine .inr ⟨node :: earlier, link, later, rfl, ?_, hlink⟩
        rwa [importLinks, List.filterMap_cons_none hnode]
    | some e =>
      obtain rfl := Node.toNode_of_element? hnode
      cases hadd : found.add file e with
      | ok found' =>
        rw [gather_of_add_ok hadd] at h
        rcases ih h with hnone | ⟨earlier, link, later, rfl, hearlier, hlink⟩
        · exact .inl hnone
        · refine .inr ⟨e.toNode :: earlier, link, later, rfl, ?_, hlink⟩
          rw [importLinks, List.filterMap_cons_some hnode, List.filter_cons]
          rcases imports_of_add hadd with ⟨himport, i, hi, -⟩ | ⟨himport, -⟩
          · rw [if_pos himport]
            exact List.forall_mem_cons.mpr ⟨⟨i, hi⟩, hearlier⟩
          · rw [himport]
            exact hearlier
      | error f =>
        rw [gather_of_add_error hadd] at h
        cases h
        obtain ⟨himport, hf⟩ := import_of_add_error hadd
        exact .inr ⟨[], e, nodes, rfl, List.forall_mem_nil _, himport, hf, rfl⟩

/-! ## Lines of errors -/

/-- An error of a template and its line, told from the tags of a text. -/
inductive ErrorAt (file content : Text) : TemplateFault → Option Nat → Prop
  | nesting {f : NestingFault} (h : FaultAt content f f.message) :
      ErrorAt file content (.nesting f) (some f.line)
  | noTemplate : ErrorAt file content .noTemplate none
  /-- The first link that imports nothing is begun by the tag that comes behind those of
  all elements before it. -/
  | badImport {earlier later : List Node} {link : Element} {fault : TemplateFault}
      {before after : List (Nat × Event)} {offset : Nat} {event : Event}
      (nodes : documentNodes file content = .ok (earlier ++ link.toNode :: later))
      (fine : ∀ e ∈ importLinks earlier, ∃ i, e.componentImport = .ok i)
      (imports : link.isImport = true) (bad : link.componentImport = .error fault)
      (split : eventsAt content = before ++ (offset, event) :: after)
      (behind : (before.map (locatedAt content)).filterMap Located.heading? =
        (earlier.flatMap Node.subtree).filterMap Node.heading?)
      (tag : (locatedAt content (offset, event)).heading? =
        some (link.name, link.attrs, lineAt content offset)) :
      ErrorAt file content fault (some (lineAt content offset))

theorem errorAt_of_gather {file content : Text} {nodes : List Node} {fault : TemplateFault}
    {blame : Option Text} {line : Option Nat} (hnodes : documentNodes file content = .ok nodes)
    (h : (gather file {} nodes).2 = .error (.template (.unreadable fault blame line))) :
    ErrorAt file content fault line := by
  rcases error_of_gather h with ⟨rfl, rfl⟩ | ⟨earlier, link, later, rfl, hfine, himport, hbad, rfl⟩
  · exact .noTemplate
  · have hheads := headings_of_documentNodes hnodes
    rw [List.flatMap_append, List.flatMap_cons, Element.toNode, Node.subtree_element,
      List.cons_append, List.filterMap_append, List.filterMap_cons] at hheads
    obtain ⟨before, offset, event, after, hsplit, hbefore, htag, -⟩ :=
      exists_split_of_filterMap hheads.symm
    have hline : lineAt content offset = link.line := line_of_heading? htag
    rw [← hline] at htag ⊢
    exact .badImport hnodes hfine himport hbad hsplit hbefore htag

theorem errorAt_of_parse {file content : Text} {fault : TemplateFault} {blame : Option Text}
    {line : Option Nat}
    (h : (Template.parse file content).2 = .error (.template (.unreadable fault blame line))) :
    ErrorAt file content fault line := by
  unfold Template.parse at h
  rcases documentNodes_grown file content with ⟨nodes, hnodes, -⟩ | ⟨f, hf, hgrown⟩ | ⟨f, hf⟩
  · rw [hnodes] at h
    exact errorAt_of_gather hnodes h
  · rw [hf] at h
    cases h
    exact .nesting (faultAt_of_grown hgrown)
  · rw [hf] at h
    cases h

/-- The line of an error is that of an offset. -/
theorem ErrorAt.exists_offset {file content : Text} {fault : TemplateFault} {line : Nat}
    (h : ErrorAt file content fault (some line)) : ∃ offset, line = lineAt content offset := by
  cases h with
  | nesting hfault =>
    cases hfault with
    | unexpected => exact ⟨_, rfl⟩
    | mismatched => exact ⟨_, rfl⟩
    | unclosed => exact ⟨_, rfl⟩
  | badImport => exact ⟨_, rfl⟩

/-- The lines that reading a text reports are those on which its tags begin. -/
structure LinesTrue (file content : Text) : Prop where
  /-- Each tag stands at its offset. -/
  tags : ∀ offset event, (offset, event) ∈ eventsAt content → event.isTag = true →
    Markup.TagAt event (content.drop offset)
  /-- The elements of the document in order are the tags that begin one. -/
  elements : ∀ nodes, documentNodes file content = .ok nodes →
    (nodes.flatMap Node.subtree).filterMap Node.heading? =
      ((eventsAt content).map (locatedAt content)).filterMap Located.heading?
  /-- The template is an element of the document. -/
  tree : ∀ t, (Template.parse file content).2 = .ok t →
    ∃ nodes, documentNodes file content = .ok nodes ∧ t.root.toNode ∈ nodes
  ordered : ∀ nodes, documentNodes file content = .ok nodes →
    ((nodes.flatMap Node.subtree).filterMap Node.line?).Pairwise (· ≤ ·)
  bounded : ∀ nodes, documentNodes file content = .ok nodes →
    ∀ line ∈ (nodes.flatMap Node.subtree).filterMap Node.line?, line ≤ 1 + content.count '\n'
  errors : ∀ fault blame line,
    (Template.parse file content).2 = .error (.template (.unreadable fault blame line)) →
      ErrorAt file content fault line ∧ ∀ n ∈ line, n ≤ 1 + content.count '\n'

end JsxTemplate
