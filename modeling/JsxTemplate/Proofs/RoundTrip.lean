import JsxTemplate.Proofs.Nesting
import JsxTemplate.Proofs.Reading

/-!
# Reading a printed template

A canonical tree comes back from each of its printed forms, whatever the layout;
only lines differ. The printed form is followed piece by piece: the reader turns
it into tags and chunks of text, and these make the nodes that were printed. Text
is only ended by the next tag, so the induction carries the text before it along.
-/

namespace JsxTemplate

open Markup (Event Located Piece Reads locate)

/-! ## Events that make given nodes -/

/-- Does an event end the text before it? -/
def Markup.Event.endsText : Event → Bool
  | .text _ | .silent => false
  | _ => true

theorem normalMarks_of_endsText {events : List Located}
    (h : events.head?.all (fun here => here.event.endsText) = true)
    (pending : Option (Nat × Text)) :
    normalMarks pending events = textMarks pending ++ normalMarks none events := by
  cases events with
  | nil => exact (List.append_nil _).symm
  | cons here events =>
    obtain ⟨line, event⟩ := here
    cases event with
    | opening name attrs => simp [normalMarks, textMarks]
    | empty name attrs => simp [normalMarks, textMarks]
    | closing name => simp [normalMarks, textMarks]
    | text chunk => cases h
    | comment => simp [normalMarks, textMarks]
    | silent => cases h

theorem brackets_append (es fs : List Located) :
    brackets (es ++ fs) = brackets es ++ brackets fs := List.filterMap_append

theorem locate_append (line : Nat) (ps qs : List Piece) :
    ∃ later, locate line (ps ++ qs) = locate line ps ++ locate later qs := by
  induction ps generalizing line with
  | nil => exact ⟨line, rfl⟩
  | cons p ps ih =>
    obtain ⟨later, h⟩ := ih (line + p.raw.count '\n')
    exact ⟨later, congrArg (List.cons _) h⟩

/-- The pieces make these nodes, on whatever lines, once the text behind them
ends. -/
structure Makes (pieces : List Piece) (ns : List Node) : Prop where
  balanced : ∀ line, Balanced (brackets (locate line pieces))
  marks : ∀ line events, events.head?.all (fun here => here.event.endsText) = true →
    ∃ made, unlinedAll made = unlinedAll ns ∧
      normalMarks none (locate line pieces ++ events) = marksAll made ++ normalMarks none events

/-- The node of a text, if anything is left of it. -/
def textNodes (line : Nat) (text : Text) : List Node :=
  if text.collapse = [] then [] else [.text text.collapse line]

@[simp] theorem textNodes_nil (line : Nat) : textNodes line [] = [] := rfl

theorem marksAll_textNodes (line : Nat) (text : Text) :
    marksAll (textNodes line text) = textMarks (some (line, text)) := by
  rw [textNodes, textMarks]
  split
  · rfl
  · rfl

theorem unlinedAll_textNodes (line : Nat) (text : Text) :
    unlinedAll (textNodes line text) = textNodes 0 text := by
  rw [textNodes, textNodes]
  split
  · rfl
  · rfl

/-- Chunks of a text add up. -/
theorem normalMarks_chunks (chunks : List Text) (line first : Nat) (text : Text)
    (events : List Located) :
    normalMarks (some (first, text))
        (locate line (chunks.map fun t => ⟨t, .text t⟩) ++ events) =
      normalMarks (some (first, text ++ chunks.flatten)) events := by
  induction chunks generalizing line text with
  | nil => rw [List.flatten_nil, List.append_nil]; rfl
  | cons chunk chunks ih =>
    rw [List.flatten_cons, ← List.append_assoc]
    exact ih _ _

theorem brackets_chunks (chunks : List Text) (line : Nat) :
    brackets (locate line (chunks.map fun t => ⟨t, .text t⟩)) = [] := by
  induction chunks generalizing line with
  | nil => rfl
  | cons chunk chunks ih => exact ih _

theorem settled_canonical {attrs : Attrs} (h : CanonicalAttrs attrs) : settled attrs = attrs := by
  have hfilled : Growth.attrsOf attrs = Table.ofEntries attrs :=
    congrArg Table.ofEntries h.map_getD
  rw [← attrsOf_eq_settled, hfilled, Table.ofEntries_of_nodup h.distinct]

namespace Makes

theorem nil : Makes [] [] where
  balanced _ := .nil
  marks _ _ _ := ⟨[], rfl, rfl⟩

/-- Lines do not count among the nodes that are made. -/
theorem of_unlined {pieces : List Piece} {ns ms : List Node} (h : Makes pieces ns)
    (hsame : unlinedAll ns = unlinedAll ms) : Makes pieces ms where
  balanced := h.balanced
  marks line events hevents := by
    obtain ⟨made, hmade, hmarks⟩ := h.marks line events hevents
    exact ⟨made, hmade.trans hsame, hmarks⟩

/-- A text in front of a tag or the end. -/
theorem chunks_append {pieces : List Piece} {ns : List Node} (h : Makes pieces ns)
    (hends : pieces.head?.all (fun p => p.event.endsText) = true) (chunks : List Text) :
    Makes (chunks.map (fun t => ⟨t, .text t⟩) ++ pieces) (textNodes 0 chunks.flatten ++ ns) where
  balanced line := by
    obtain ⟨later, hlocate⟩ := locate_append line (chunks.map fun t => ⟨t, .text t⟩) pieces
    rw [hlocate, brackets_append, brackets_chunks, List.nil_append]
    exact h.balanced later
  marks line events hevents := by
    obtain ⟨later, hlocate⟩ := locate_append line (chunks.map fun t => ⟨t, .text t⟩) pieces
    obtain ⟨made, hmade, hmarks⟩ := h.marks later events hevents
    have hnext : (locate later pieces ++ events).head?.all (fun here => here.event.endsText) =
        true := by
      cases pieces with
      | nil => exact hevents
      | cons p pieces => exact hends
    refine ⟨textNodes line chunks.flatten ++ made, ?_, ?_⟩
    · rw [unlinedAll_append, unlinedAll_append, unlinedAll_textNodes, unlinedAll_textNodes, hmade]
    · rw [hlocate, List.append_assoc, marksAll_append, marksAll_textNodes, List.append_assoc,
        ← hmarks]
      cases chunks with
      | nil => rfl
      | cons chunk chunks =>
        rw [← normalMarks_of_endsText hnext]
        exact normalMarks_chunks chunks _ line chunk _

/-- A tag that is a whole element. -/
theorem cons_childless {pieces : List Piece} {ns : List Node} (h : Makes pieces ns)
    (raw name : Text) {attrs : Attrs} (hattrs : CanonicalAttrs attrs) {event : Event} (line : Nat)
    (hevent : event = .opening name attrs ∧ isVoid name = true ∨ event = .empty name attrs) :
    Makes (⟨raw, event⟩ :: pieces) (.element name attrs [] line :: ns) where
  balanced line := by
    have hnone : bracket? ⟨line, event⟩ = none := by
      rcases hevent with ⟨rfl, hvoid⟩ | rfl
      · exact if_pos hvoid
      · rfl
    rw [locate, brackets, List.filterMap_cons_none hnone]
    exact h.balanced _
  marks here events hevents := by
    obtain ⟨made, hmade, hmarks⟩ := h.marks (here + raw.count '\n') events hevents
    refine ⟨.element name attrs [] here :: made, congrArg (List.cons _) hmade, ?_⟩
    have hsettled := settled_canonical hattrs
    rcases hevent with ⟨rfl, hvoid⟩ | rfl
    · simp [locate, normalMarks, textMarks, marksAll, Node.marks, hvoid, hsettled, hmarks]
    · simp [locate, normalMarks, textMarks, marksAll, Node.marks, hsettled, hmarks]

/-- An opening tag, the children, and the closing tag. -/
theorem cons_element {inside pieces : List Piece} {children ns : List Node}
    (hinside : Makes inside children) (h : Makes pieces ns) (opens closes : Text) {name : Text}
    {attrs : Attrs} (hattrs : CanonicalAttrs attrs) (line : Nat) (hopen : isVoid name = false) :
    Makes (⟨opens, .opening name attrs⟩ :: (inside ++ ⟨closes, .closing name⟩ :: pieces))
      (.element name attrs children line :: ns) where
  balanced line := by
    obtain ⟨later, hlocate⟩ := locate_append (line + opens.count '\n') inside
      (⟨closes, .closing name⟩ :: pieces)
    have hbrackets : brackets (locate line
        (⟨opens, .opening name attrs⟩ :: (inside ++ ⟨closes, .closing name⟩ :: pieces))) =
        .opens name line :: brackets (locate (line + opens.count '\n') inside) ++
          .closes name later :: brackets (locate (later + closes.count '\n') pieces) := by
      rw [locate, hlocate]
      simp [brackets, bracket?, locate, hopen]
    rw [hbrackets]
    exact .wrap name line later (hinside.balanced _) (h.balanced _)
  marks here events hevents := by
    obtain ⟨later, hlocate⟩ := locate_append (here + opens.count '\n') inside
      (⟨closes, .closing name⟩ :: pieces)
    obtain ⟨made, hmade, hmarks⟩ := h.marks (later + closes.count '\n') events hevents
    obtain ⟨within, hwithin, hinner⟩ := hinside.marks (here + opens.count '\n')
      (⟨later, .closing name⟩ :: (locate (later + closes.count '\n') pieces ++ events)) rfl
    refine ⟨.element name attrs within here :: made, ?_, ?_⟩
    · rw [unlinedAll, unlinedAll, Node.unlined, Node.unlined, hwithin, hmade]
    · rw [locate, hlocate, List.cons_append, List.append_assoc, locate, List.cons_append,
        normalMarks, hinner, normalMarks, hmarks, settled_canonical hattrs]
      simp [textMarks, marksAll, Node.marks, hopen]

end Makes

/-! ## Printed nodes -/

/-- A text and blanks in front of a tag or the end are read before what follows
them. -/
theorem exists_pieces_after_text {t gap s rest : Text} {pieces : List Piece} {ns : List Node}
    (ht : isEncoded t = true) (hgap : gap.blank = true) (hreads : Reads s rest pieces)
    (hmakes : Makes pieces ns) (hs : (s ++ rest).head?.all (· == '<') = true)
    (hends : pieces.head?.all (fun p => p.event.endsText) = true) :
    ∃ all, Reads (t ++ gap ++ s) rest all ∧ Makes all (textNodes 0 t ++ ns) := by
  have hcollapse : (t ++ gap).collapse = t.collapse :=
    @Text.collapse_between_blanks [] gap rfl t hgap
  obtain ⟨chunks, hchunks, hflat⟩ :=
    Markup.reads_encoded hs (isEncoded_append ht (isEncoded_of_blank hgap))
  have hall := hmakes.chunks_append hends chunks
  rw [textNodes, hflat, hcollapse] at hall
  exact ⟨_, hchunks.append hreads, hall⟩

/-- Every printed form of canonical nodes is read as pieces that make them. The
text `t` before it is still pending; it is blank if the first node is a text. -/
theorem exists_pieces_of_printed {ns : List Node} {s : Text} (hprinted : Printed ns s)
    (hcanonical : Canonical ns) {t : Text} (ht : isEncoded t = true)
    (hapart : t.blank = true ∨ ns.head?.any Node.isText = false) {rest : Text}
    (hrest : rest.head?.all (· == '<') = true) :
    ∃ pieces, Reads (t ++ s) rest pieces ∧ Makes pieces (textNodes 0 t ++ ns) := by
  induction hprinted generalizing t rest with
  | @nil gap blanks =>
    have h := exists_pieces_after_text ht blanks (Reads.nil rest) Makes.nil hrest rfl
    rwa [List.append_nil] at h
  | @text gap value s after line ns blanks spaced more ih =>
    cases hcanonical with
    | text filled collapsed encoded apart canonical =>
      -- the text joins what is pending before it
      have hblank : t.blank = true := hapart.resolve_right (by simp [Node.isText])
      have hgap : (t ++ gap).blank = true := by simp [hblank, blanks]
      have hcollapse : (t ++ gap ++ s ++ []).collapse = value :=
        spaced.collapse_eq collapsed hgap rfl
      rw [List.append_nil] at hcollapse
      have hencoded : isEncoded (t ++ gap ++ s) = true :=
        isEncoded_append (isEncoded_of_blank hgap) (spaced.isEncoded encoded)
      obtain ⟨pieces, hreads, hmakes⟩ := ih canonical hencoded (.inr apart) hrest
      refine ⟨pieces, ?_, hmakes.of_unlined ?_⟩
      · simpa only [List.append_assoc] using hreads
      · rw [textNodes, hcollapse, if_neg filled, textNodes, Text.collapse_of_blank hblank,
          if_pos rfl]
        rfl
  | @void gap name after attrs line ns blanks void more ih =>
    cases hcanonical with
    | element named parsed attributes _ _ canonical =>
      obtain ⟨pieces, hreads, hmakes⟩ := ih canonical (t := []) rfl (.inl rfl) hrest
      have htag := (Markup.reads_opening named parsed attributes (after ++ rest)).append hreads
      have hmade := hmakes.cons_childless ('<' :: printTag name attrs ++ ['>']) name attributes line
        (.inl ⟨rfl, void⟩)
      have h := exists_pieces_after_text ht blanks htag hmade rfl rfl
      simpa using h
  | @empty gap name after attrs line ns blanks open_ more ih =>
    cases hcanonical with
    | element named parsed attributes _ _ canonical =>
      obtain ⟨pieces, hreads, hmakes⟩ := ih canonical (t := []) rfl (.inl rfl) hrest
      have htag := (Markup.reads_empty named attributes (after ++ rest)).append hreads
      have hmade := hmakes.cons_childless ('<' :: printTag name attrs ++ [' ', '/', '>']) name
        attributes line (.inr rfl)
      have h := exists_pieces_after_text ht blanks htag hmade rfl rfl
      simpa using h
  | @element gap name body after attrs children ns line blanks open_ inside more ihInside ih =>
    cases hcanonical with
    | element named parsed attributes _ within canonical =>
      obtain ⟨pieces, hreads, hmakes⟩ := ih canonical (t := []) rfl (.inl rfl) hrest
      have hclosing := (Markup.reads_closing named (after ++ rest)).append hreads
      have hnext : (('<' :: '/' :: name ++ ['>']) ++ after ++ rest).head?.all (· == '<') = true :=
        rfl
      obtain ⟨inner, hinner, hchildren⟩ := ihInside within (t := []) rfl (.inl rfl) hnext
      have htag := (Markup.reads_opening named parsed attributes _).append (hinner.append hclosing)
      have hmade := hchildren.cons_element hmakes ('<' :: printTag name attrs ++ ['>'])
        ('<' :: '/' :: name ++ ['>']) attributes line open_
      have h := exists_pieces_after_text ht blanks htag hmade rfl rfl
      simpa using h

/-! ## Whole templates -/

theorem read_of_reads {s : Text} {pieces : List Piece} (h : Reads s [] pieces) :
    Markup.read s = (pieces, none) := by
  have hnil (closing : Bool) : Markup.pass closing .markup [] = ⟨[], .markup, [], none⟩ := by
    rw [Markup.pass]
    rfl
  rw [Reads, List.append_nil, hnil, List.append_nil] at h
  simp [Markup.read, h, hnil, Markup.Pass.remainder]

theorem documentNodes_of_grown {file content : Text} {pieces : List Piece} {nodes : List Node}
    (hread : Markup.read content = (pieces, none)) (hgrown : grown (locate 1 pieces) = .ok nodes) :
    documentNodes file content = .ok nodes := by
  rw [grown] at hgrown
  rw [documentNodes, hread]
  cases hrun : ({} : Growth).handleAll (locate 1 pieces) with
  | error f =>
    rw [hrun] at hgrown
    cases hgrown
  | ok g =>
    rw [hrun] at hgrown
    change g.finish = .ok nodes at hgrown
    simp only [hrun, hgrown]

/-- Pieces that make nodes are grown into these nodes. -/
theorem Makes.grown {pieces : List Piece} {ns : List Node} (h : Makes pieces ns) :
    ∃ made, grown (locate 1 pieces) = .ok made ∧ unlinedAll made = unlinedAll ns := by
  obtain ⟨nodes, hnodes⟩ := (exists_grown_iff _).mpr (h.balanced 1)
  obtain ⟨made, hmade, hmarks⟩ := h.marks 1 [] rfl
  have hsame : marksAll nodes ++ [] = marksAll made ++ [] := by
    rw [marks_of_grown hnodes, List.append_nil, ← List.append_nil (locate 1 pieces), hmarks]
    rfl
  obtain ⟨rfl, -⟩ := marksAll_inj (Or.inl rfl) (Or.inl rfl) hsame
  exact ⟨nodes, hnodes, hmade⟩

/-- A single `template` element is the template of its file. -/
theorem gather_template (file : Text) {root : Element} (h : root.name = "template") :
    gather file {} [root.toNode] =
      ([.parsed file 0 root.children.length], .ok ⟨root, [], file⟩) := by
  have hadd : Findings.add file {} root = .ok { root := some root } := by
    rw [Findings.add, if_pos h]
  simp only [gather, Element.toNode, Node.element?, hadd]
  rfl

/-- Only an element looks like an element once lines are forgotten. -/
theorem exists_toNode_of_unlined {n : Node} {e : Element} (h : n.unlined = e.toNode.unlined) :
    ∃ found : Element, n = found.toNode ∧ found.name = e.name ∧
      found.children.length = e.children.length := by
  cases n with
  | text value line => cases h
  | stray value => cases h
  | element name attrs children line =>
    rw [Element.toNode, Node.unlined, Node.unlined, Node.element.injEq] at h
    refine ⟨⟨name, attrs, children, line⟩, rfl, h.1, ?_⟩
    rw [← length_unlinedAll children, h.2.2.1, length_unlinedAll]

/-- A canonical template is read back from its printed form in every layout: the
same tree, but for the lines of its nodes, and nothing else. -/
theorem parse_printed (file content : Text) (root : Element) (hname : root.name = "template")
    (hcanonical : Canonical [root.toNode]) (hprinted : Printed [root.toNode] content) :
    ∃ found : Element, Template.parse file content =
        ([.parsed file 0 root.children.length], .ok ⟨found, [], file⟩) ∧
      found.toNode.unlined = root.toNode.unlined := by
  have hend : ([] : Text).head?.all (· == '<') = true := rfl
  obtain ⟨pieces, hreads, hmakes⟩ :=
    exists_pieces_of_printed hprinted hcanonical (t := []) rfl (.inl rfl) hend
  obtain ⟨made, hgrown, hunlined⟩ := hmakes.grown
  have hdocument : documentNodes file content = .ok made :=
    documentNodes_of_grown (read_of_reads hreads) hgrown
  -- one node was printed, so one node was made
  obtain ⟨n, rfl⟩ : ∃ n, made = [n] := by
    rw [← List.length_eq_one_iff, ← length_unlinedAll, hunlined]
    rfl
  have hnode : n.unlined = root.toNode.unlined := (List.cons.inj hunlined).1
  obtain ⟨found, rfl, hfound, hchildren⟩ := exists_toNode_of_unlined hnode
  refine ⟨found, ?_, hnode⟩
  rw [Template.parse, hdocument, ← hchildren]
  exact gather_template file (hfound.trans hname)

/-- A template with a text, a void element, an element inside another and an
attribute whose value looks like markup. -/
def memo : Element where
  name := "template"
  attrs := [("title", some "\"R&D\" <go> &lt;")]
  children := [
    .text ['a', ' ', '&', 'l', 't', ';', ' ', 'b'] 0,
    .element "br" [] [] 0,
    .element "list-item" [("id", some [])]
      [.text ['&', '#', 'x', '4', '2', ';'] 0, .element "b" [] [] 0] 0,
    .element "p" [] [] 0]
  line := 0

theorem memo_canonical : Canonical [memo.toNode] := by
  refine .element (by decide) (by decide) ⟨by decide, by decide, by decide⟩ (by decide) ?_ .nil
  refine .text (by decide) ⟨by decide, by decide, by decide, by decide⟩ (by decide) rfl ?_
  refine .element (by decide) (by decide) ⟨rfl, rfl, .nil⟩ (fun _ => rfl) .nil ?_
  refine .element (by decide) (by decide) ⟨by decide, rfl, by decide⟩ (by decide) ?_ ?_
  · refine .text (by decide) ⟨by decide, by decide, by decide, by decide⟩ (by decide) rfl ?_
    exact .element (by decide) (by decide) ⟨rfl, rfl, .nil⟩ (fun _ => rfl) .nil .nil
  · exact .element (by decide) (by decide) ⟨rfl, rfl, .nil⟩ (fun _ => rfl) .nil .nil

/-- The template `memo` in a layout of mixed blanks. -/
def memoText : Text :=
  "\n<template title=\"&quot;R&amp;D&quot; <go> &amp;lt;\">\n  a\r\n &lt;\tb <br>
  <list-item id=\"\">&#x42;<b> </b>\n</list-item><p />\n</template>\n"

theorem memo_printed : Printed [memo.toNode] memoText := by
  have hspaced : Text.Respaced ['a', ' ', '&', 'l', 't', ';', ' ', 'b']
      ('a' :: (['\r', '\n', ' '] ++ '&' :: 'l' :: 't' :: ';' :: (['\t'] ++ ['b']))) := by
    refine .char (by decide) (.space (by decide) (by decide) ?_)
    refine .char (by decide) (.char (by decide) (.char (by decide) (.char (by decide) ?_)))
    exact .space (by decide) (by decide) (.char (by decide) .nil)
  have hreference : Text.Respaced ['&', '#', 'x', '4', '2', ';']
      ['&', '#', 'x', '4', '2', ';'] := by
    refine .char (by decide) (.char (by decide) (.char (by decide) ?_))
    exact .char (by decide) (.char (by decide) (.char (by decide) .nil))
  have hnone : Text.blank [] = true := rfl
  have hspace : Text.blank [' '] = true := rfl
  have hline : Text.blank ['\n'] = true := rfl
  have hmargin : Text.blank ['\n', ' ', ' '] = true := rfl
  have hbold : Printed [.element "b" [] [] 0] _ :=
    .element hnone rfl (.nil hspace) (.nil hline)
  have hitems : Printed memo.children _ :=
    .text hmargin hspaced (.void hspace rfl
      (.element hmargin rfl (.text hnone hreference hbold) (.empty hnone rfl (.nil hline))))
  have hmemo : Printed [memo.toNode] _ := .element hline rfl hitems (.nil hline)
  refine Eq.mp (congrArg (Printed _) ?_) hmemo
  decide +kernel

theorem parse_printed_memo :
    memo.name = "template" ∧ Canonical [memo.toNode] ∧ Printed [memo.toNode] memoText ∧
      ∃ found : Element, Template.parse "memo.html" memoText =
          ([.parsed "memo.html" 0 4], .ok ⟨found, [], "memo.html"⟩) ∧
        found.toNode.unlined = memo.toNode :=
  ⟨rfl, memo_canonical, memo_printed,
    parse_printed "memo.html" memoText memo rfl memo_canonical memo_printed⟩

end JsxTemplate
