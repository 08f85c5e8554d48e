import JsxTemplate.Proofs.Lines

/-!
# Blanks before a text

Blanks at the start of a text change nothing but lines. The reader takes them into the text
before the first tag, and what stands there is outside every element. From then on the growing
tree is the same but for its lines, which are all later by the line feeds among the blanks.
-/

namespace JsxTemplate

open Markup (Event Located Piece)

/-! ## Later lines -/

/-- An event, `k` lines later. -/
def Markup.Located.shifted (k : Nat) (here : Located) : Located := ⟨here.line + k, here.event⟩

mutual

/-- A node, `k` lines later throughout. -/
def Node.shifted (k : Nat) : Node → Node
  | .text value line => .text value (line + k)
  | .element name attrs children line => .element name attrs (shiftedAll k children) (line + k)
  | .stray value => .stray value

def shiftedAll (k : Nat) : List Node → List Node
  | [] => []
  | n :: ns => n.shifted k :: shiftedAll k ns

end

def Element.shifted (k : Nat) (e : Element) : Element :=
  { e with children := shiftedAll k e.children, line := e.line + k }

def NestingFault.shifted (k : Nat) : NestingFault → NestingFault
  | .unexpected tag line => .unexpected tag (line + k)
  | .mismatched expected opened tag line => .mismatched expected (opened + k) tag (line + k)
  | .unclosed name line => .unclosed name (line + k)

def TemplateFault.shifted (k : Nat) : TemplateFault → TemplateFault
  | .nesting f => .nesting (f.shifted k)
  | fault => fault

def TemplateError.shifted (k : Nat) : TemplateError → TemplateError
  | .unreadable fault file line => .unreadable (fault.shifted k) file (line.map (· + k))
  | e => e

def Failure.shifted (k : Nat) : Failure → Failure
  | .template e => .template (e.shifted k)
  | f => f

def Notice.shifted (k : Nat) : Notice → Notice
  | .extraTemplate file line => .extraTemplate file (line + k)
  | notice => notice

def Template.shifted (k : Nat) (t : Template) : Template := { t with root := t.root.shifted k }

def Findings.shifted (k : Nat) (found : Findings) : Findings where
  root := found.root.map (Element.shifted k)
  imports := found.imports
  notices := found.notices.map (Notice.shifted k)

/-- What comes of reading a template, `k` lines later. -/
def shiftedResult (k : Nat) (result : List Notice × Except Failure Template) :
    List Notice × Except Failure Template :=
  (result.1.map (Notice.shifted k),
    (result.2.map (Template.shifted k)).mapError (Failure.shifted k))

theorem shiftedAll_append (k : Nat) (ns ms : List Node) :
    shiftedAll k (ns ++ ms) = shiftedAll k ns ++ shiftedAll k ms := by
  induction ns with
  | nil => rfl
  | cons n ns ih => rw [List.cons_append, shiftedAll, shiftedAll, ih, List.cons_append]

theorem length_shiftedAll (k : Nat) (ns : List Node) : (shiftedAll k ns).length = ns.length := by
  induction ns with
  | nil => rfl
  | cons n ns ih => rw [shiftedAll, List.length_cons, List.length_cons, ih]

theorem NestingFault.failure_shifted (k : Nat) (file : Text) (f : NestingFault) :
    Failure.shifted k (.template (.unreadable (.nesting f) (some file) (some f.line))) =
      .template (.unreadable (.nesting (f.shifted k)) (some file) (some (f.shifted k).line)) := by
  cases f <;> rfl

theorem Node.element?_shifted (k : Nat) (n : Node) :
    (n.shifted k).element? = n.element?.map (Element.shifted k) := by
  cases n <;> rfl

/-! ## The reader -/

namespace Markup

theorem locate_shifted (k : Nat) (ps : List Piece) (line : Nat) :
    locate (line + k) ps = (locate line ps).map (Located.shifted k) := by
  induction ps generalizing line with
  | nil => rfl
  | cons p ps ih =>
    rw [locate, locate, List.map_cons, Nat.add_right_comm, ih]
    rfl

theorem isPlainChar_of_isBlank {c : Char} (h : Text.isBlank c = true) : isPlainChar c = true := by
  rw [isPlainChar, Bool.and_eq_true, bne_iff_ne, bne_iff_ne]
  constructor
  · intro hc
    rw [hc] at h
    exact absurd h (by decide)
  · intro hc
    rw [hc] at h
    exact absurd h (by decide)

/-- A text begins with plain text that ends before a bracket or an ampersand. -/
theorem exists_plain (s : Text) : ∃ u v, s = u ++ v ∧ (∀ c ∈ u, isPlainChar c = true) ∧
    v.head?.all (fun c => !isPlainChar c) = true := by
  refine ⟨s.takeWhile isPlainChar, s.dropWhile isPlainChar,
    List.takeWhile_append_dropWhile.symm, List.all_eq_true.mp List.all_takeWhile, ?_⟩
  have hnot := List.head?_dropWhile_not isPlainChar s
  cases hv : s.dropWhile isPlainChar with
  | nil => rfl
  | cons c v =>
    rw [hv] at hnot
    simpa using hnot

/-- Plain text up to the next bracket or ampersand is one piece, and what follows is read
as if nothing stood before it. -/
theorem read_plain {u v : Text} (hne : u ≠ []) (hu : ∀ c ∈ u, isPlainChar c = true)
    (hv : v.head?.all (fun c => !isPlainChar c) = true) :
    read (u ++ v) = (⟨u, .text u⟩ :: (read v).1, (read v).2) := by
  obtain ⟨htake, hdrop⟩ := Text.takeWhile_run hu hv
  obtain ⟨c, t, rfl⟩ := List.exists_cons_of_ne_nil hne
  have hstep := step_plain false (hu c List.mem_cons_self) (t ++ v)
  rw [← List.cons_append, htake, hdrop] at hstep
  have hpass := pass_of_take hstep
  have hpiece : Piece.between (c :: t ++ v) v (.text (c :: t)) = ⟨c :: t, .text (c :: t)⟩ := by
    rw [Piece.between, List.length_append, Nat.add_sub_cancel, List.take_left]
  rw [hpiece] at hpass
  rw [read, read, hpass]
  simp only [Pass.behind]
  cases (pass false .markup v).fault with
  | some f => rfl
  | none =>
    simp only
    cases (pass true (pass false .markup v).mode (pass false .markup v).rest).fault with
    | some f => rfl
    | none => rfl

end Markup

/-! ## The growing tree -/

namespace Growth

variable {k : Nat} {g g' : Growth}

/-- The second tree is the first with later lines, texts outside its elements left out of
account. -/
structure Alike (k : Nat) (g g' : Growth) : Prop where
  stack : g'.stack = g.stack.map (Element.shifted k)
  placed : g'.placed.filterMap Node.element? =
    (g.placed.filterMap Node.element?).map (Element.shifted k)
  pending : g.stack ≠ [] → g'.pending = g.pending.map fun held => (held.1 + k, held.2)

theorem place_of_nil (h : g.stack = []) (n : Node) :
    g.place n = { g with placed := g.placed ++ [n] } := by
  rw [place, h]

theorem place_of_cons {e : Element} {es : List Element} (h : g.stack = e :: es) (n : Node) :
    g.place n = { g with stack := { e with children := e.children ++ [n] } :: es } := by
  rw [place, h]

/-- Outside every element the pending text adds no element. -/
theorem elements_flush (h : g.stack = []) :
    g.flush.stack = [] ∧ g.flush.placed.filterMap Node.element? =
      g.placed.filterMap Node.element? := by
  unfold flush
  split
  · exact ⟨h, rfl⟩
  · simp only
    split
    · exact ⟨h, rfl⟩
    · have hsame : ({ g with pending := none } : Growth).stack = [] := h
      rw [place_of_nil hsame]
      exact ⟨h, by rw [List.filterMap_append]; exact List.append_nil _⟩

theorem stack_addText (g : Growth) (line : Nat) (chunk : Text) :
    (g.addText line chunk).stack = g.stack := by
  unfold addText
  cases g.pending <;> rfl

theorem placed_addText (g : Growth) (line : Nat) (chunk : Text) :
    (g.addText line chunk).placed = g.placed := by
  unfold addText
  cases g.pending <;> rfl

namespace Alike

/-- Without a text that waits, only the elements are compared. -/
theorem of_none {g g' : Growth} (hstack : g'.stack = g.stack.map (Element.shifted k))
    (hplaced : g'.placed.filterMap Node.element? =
      (g.placed.filterMap Node.element?).map (Element.shifted k))
    (hpending : g.pending = none) (hpending' : g'.pending = none) : Alike k g g' :=
  ⟨hstack, hplaced, fun _ => by rw [hpending, hpending']; rfl⟩

theorem stack_nil (h : Alike k g g') (hstack : g.stack = []) : g'.stack = [] := by
  rw [h.stack, hstack]
  rfl

theorem stack_cons (h : Alike k g g') {e : Element} {es : List Element}
    (hstack : g.stack = e :: es) : g'.stack = e.shifted k :: es.map (Element.shifted k) := by
  rw [h.stack, hstack]
  rfl

/-- Inside an element the waiting text is the same. -/
theorem pending_of_cons (h : Alike k g g') {e : Element} {es : List Element}
    (hstack : g.stack = e :: es) :
    g'.pending = g.pending.map fun held => (held.1 + k, held.2) := by
  apply h.pending
  rw [hstack]
  exact List.cons_ne_nil e es

theorem place (h : Alike k g g') (n : Node) : Alike k (g.place n) (g'.place (n.shifted k)) := by
  cases hstack : g.stack with
  | nil =>
    rw [place_of_nil hstack, place_of_nil (h.stack_nil hstack)]
    refine ⟨h.stack, ?_, h.pending⟩
    simp only [List.filterMap_append, List.map_append, h.placed, List.filterMap_cons,
      List.filterMap_nil, Node.element?_shifted]
    cases n.element? <;> rfl
  | cons e es =>
    rw [place_of_cons hstack, place_of_cons (h.stack_cons hstack)]
    refine ⟨?_, h.placed, fun _ => h.pending_of_cons hstack⟩
    simp only [List.map_cons, Element.shifted, shiftedAll_append, shiftedAll]

theorem flush (h : Alike k g g') : Alike k g.flush g'.flush := by
  cases hstack : g.stack with
  | nil =>
    -- the waiting texts may differ here, but neither becomes an element
    obtain ⟨hs, hp⟩ := elements_flush hstack
    obtain ⟨hs', hp'⟩ := elements_flush (h.stack_nil hstack)
    refine of_none ?_ ?_ g.pending_flush g'.pending_flush
    · rw [hs, hs']
      rfl
    · rw [hp, hp', h.placed]
  | cons e es =>
    unfold Growth.flush
    rw [h.pending_of_cons hstack]
    cases g.pending with
    | none => exact h
    | some held =>
      have hsame : Alike k { g with pending := none } { g' with pending := none } :=
        of_none h.stack h.placed rfl rfl
      simp only [Option.map_some]
      cases Text.collapse held.2 with
      | nil => exact hsame
      | cons c value => exact hsame.place (.text (c :: value) held.1)

theorem addText (h : Alike k g g') (line : Nat) (chunk : Text) :
    Alike k (g.addText line chunk) (g'.addText (line + k) chunk) where
  stack := by rw [stack_addText, stack_addText, h.stack]
  placed := by rw [placed_addText, placed_addText, h.placed]
  pending hne := by
    rw [stack_addText] at hne
    unfold Growth.addText
    rw [h.pending hne]
    cases g.pending <;> rfl

/-- A new element is opened in both trees. -/
theorem push (h : Alike k g g') (hpending : g.pending = none) (hpending' : g'.pending = none)
    (e : Element) :
    Alike k { g with stack := e :: g.stack } { g' with stack := e.shifted k :: g'.stack } := by
  refine of_none ?_ h.placed hpending hpending'
  rw [h.stack]
  rfl

/-- The innermost element is closed in both trees. -/
theorem pop (h : Alike k g g') {e : Element} {es : List Element} (hstack : g.stack = e :: es) :
    Alike k ({ g with stack := es }.place e.toNode)
      ({ g' with stack := es.map (Element.shifted k) }.place (e.shifted k).toNode) := by
  have houter : Alike k { g with stack := es } { g' with stack := es.map (Element.shifted k) } :=
    ⟨rfl, h.placed, fun _ => h.pending_of_cons hstack⟩
  exact houter.place e.toNode

end Alike

/-- Two runs succeed alike, or the second fails as the first with later lines. -/
inductive Outcomes {α β : Type} (k : Nat) (R : α → β → Prop) :
    Except NestingFault α → Except NestingFault β → Prop
  | ok {a : α} {b : β} (h : R a b) : Outcomes k R (.ok a) (.ok b)
  | error (f : NestingFault) : Outcomes k R (.error f) (.error (f.shifted k))

/-- Trees that are alike take an event alike. -/
theorem Alike.handle (h : Alike k g g') (here : Located) :
    Outcomes k (Alike k) (g.handle here) (g'.handle (here.shifted k)) := by
  obtain ⟨line, event⟩ := here
  have hflush := h.flush
  cases event with
  | opening name attrs =>
    by_cases hv : isVoid name
    · simp only [Growth.handle, Located.shifted, hv, ↓reduceIte]
      exact .ok (hflush.place (.element name (attrsOf attrs) [] line))
    · simp only [Growth.handle, Located.shifted, hv, Bool.false_eq_true, ↓reduceIte]
      exact .ok (hflush.push g.pending_flush g'.pending_flush ⟨name, attrsOf attrs, [], line⟩)
  | empty name attrs => exact .ok (hflush.place (.element name (attrsOf attrs) [] line))
  | closing tag =>
    by_cases hv : isVoid tag
    · simp only [Growth.handle, Located.shifted, hv, ↓reduceIte]
      exact .ok hflush
    · simp only [Growth.handle, Located.shifted, hv, Bool.false_eq_true, ↓reduceIte]
      cases hstack : g.flush.stack with
      | nil =>
        rw [hflush.stack_nil hstack]
        exact .error (.unexpected tag line)
      | cons e es =>
        rw [hflush.stack_cons hstack]
        by_cases hn : e.name = tag
        · have hn' : (e.shifted k).name = tag := hn
          simp only [hn, hn', ↓reduceIte]
          exact .ok (hflush.pop hstack)
        · have hn' : ¬ (e.shifted k).name = tag := hn
          simp only [hn, hn', ↓reduceIte]
          exact .error (.mismatched e.name e.line tag line)
  | text chunk => exact .ok (h.addText line chunk)
  | comment => exact .ok hflush
  | silent => exact .ok h

theorem Alike.handleAll (h : Alike k g g') (events : List Located) :
    Outcomes k (Alike k) (g.handleAll events) (g'.handleAll (events.map (Located.shifted k))) := by
  induction events generalizing g g' with
  | nil => exact .ok h
  | cons here events ih =>
    have hstep := h.handle here
    rw [List.map_cons, Growth.handleAll, Growth.handleAll]
    generalize g.handle here = r, g'.handle (here.shifted k) = r' at hstep
    cases hstep with
    | ok halike => exact ih halike
    | error f => exact .error f

/-- The nodes of a document by their elements, the second ones with later lines. -/
def SameElements (k : Nat) (nodes nodes' : List Node) : Prop :=
  nodes'.filterMap Node.element? = (nodes.filterMap Node.element?).map (Element.shifted k)

theorem Alike.finish (h : Alike k g g') : Outcomes k (SameElements k) g.finish g'.finish := by
  have hflush := h.flush
  unfold Growth.finish
  cases hstack : g.flush.stack with
  | nil =>
    rw [hflush.stack_nil hstack]
    exact .ok hflush.placed
  | cons e es =>
    rw [hflush.stack_cons hstack]
    exact .error (.unclosed e.name e.line)

/-- Text alone leaves a new tree without elements, wherever it stands. -/
theorem alike_of_text (k : Nat) (pending pending' : Option (Nat × Text)) :
    Alike k { pending := pending } { pending := pending' } :=
  ⟨rfl, rfl, fun hne => absurd rfl hne⟩

end Growth

/-! ## Documents -/

/-- Plain text before the first tag only waits to be placed. -/
theorem handleAll_plain {u v : Text} (hu : ∀ c ∈ u, Markup.isPlainChar c = true)
    (hv : v.head?.all (fun c => !Markup.isPlainChar c) = true) :
    (∃ pending, ({} : Growth).handleAll (Markup.locate 1 (Markup.read (u ++ v)).1) =
      ({ pending := pending } : Growth).handleAll
        (Markup.locate (1 + u.count '\n') (Markup.read v).1)) ∧
    (Markup.read (u ++ v)).2 = (Markup.read v).2 := by
  by_cases hne : u = []
  · subst hne
    exact ⟨⟨none, rfl⟩, rfl⟩
  · rw [Markup.read_plain hne hu hv]
    exact ⟨⟨some (1, u), rfl⟩, rfl⟩

/-- Blanks before a text leave its tree as it is but for the lines, and the reader gives up
on it as before. -/
theorem handleAll_blank {w : Text} (hw : w.blank = true) (s : Text) :
    Growth.Outcomes (w.count '\n') (Growth.Alike (w.count '\n'))
      (({} : Growth).handleAll (Markup.locate 1 (Markup.read s).1))
      (({} : Growth).handleAll (Markup.locate 1 (Markup.read (w ++ s)).1)) ∧
    (Markup.read (w ++ s)).2 = (Markup.read s).2 := by
  have hplain : ∀ c ∈ w, Markup.isPlainChar c = true := fun c hc =>
    Markup.isPlainChar_of_isBlank (Text.blank_iff.mp hw c hc)
  -- the plain text before the first tag takes the blanks in
  obtain ⟨u, v, rfl, hu, hv⟩ := Markup.exists_plain s
  obtain ⟨⟨pending, hgrown⟩, hfault⟩ := handleAll_plain hu hv
  obtain ⟨⟨pending', hgrown'⟩, hfault'⟩ :=
    handleAll_plain (List.forall_mem_append.mpr ⟨hplain, hu⟩) hv
  have hlater : 1 + (w ++ u).count '\n' = 1 + u.count '\n' + w.count '\n' := by
    rw [List.count_append]
    omega
  rw [hlater, Markup.locate_shifted] at hgrown'
  rw [← List.append_assoc, hgrown, hgrown', hfault, hfault']
  exact ⟨(Growth.alike_of_text _ pending pending').handleAll _, rfl⟩

/-- Blanks before a text leave the elements of its document, or its fault, as they are but
for the lines. -/
theorem documentNodes_blank (file : Text) {w : Text} (hw : w.blank = true) (s : Text) :
    (∃ nodes nodes', documentNodes file s = .ok nodes ∧ documentNodes file (w ++ s) = .ok nodes' ∧
      Growth.SameElements (w.count '\n') nodes nodes') ∨
    ∃ f, documentNodes file s = .error f ∧
      documentNodes file (w ++ s) = .error (f.shifted (w.count '\n')) := by
  obtain ⟨hrun, hfault⟩ := handleAll_blank hw s
  unfold documentNodes
  generalize Markup.read s = before, Markup.read (w ++ s) = after at hrun hfault ⊢
  obtain ⟨ps, fault⟩ := before
  obtain ⟨ps', fault'⟩ := after
  obtain rfl : fault' = fault := hfault
  simp only at hrun ⊢
  generalize ({} : Growth).handleAll (Markup.locate 1 ps) = r,
    ({} : Growth).handleAll (Markup.locate 1 ps') = r' at hrun ⊢
  cases hrun with
  | error f => exact .inr ⟨_, rfl, congrArg Except.error (f.failure_shifted _ file).symm⟩
  | @ok g g' halike =>
    cases fault' with
    | some f => exact .inr ⟨_, rfl, rfl⟩
    | none =>
      have hfinish := halike.finish
      simp only
      generalize g.finish = r, g'.finish = r' at hfinish ⊢
      cases hfinish with
      | ok hsame => exact .inl ⟨_, _, rfl, rfl, hsame⟩
      | error f => exact .inr ⟨_, rfl, congrArg Except.error (f.failure_shifted _ file).symm⟩

/-! ## Templates -/

/-- Only the elements of a file are looked at. -/
theorem gather_elements (file : Text) (found : Findings) (nodes : List Node) :
    gather file found nodes =
      gather file found ((nodes.filterMap Node.element?).map Element.toNode) := by
  induction nodes generalizing found with
  | nil => rfl
  | cons node nodes ih =>
    cases hnode : node.element? with
    | none =>
      rw [gather, hnode, List.filterMap_cons_none hnode]
      exact ih found
    | some e =>
      rw [List.filterMap_cons_some hnode, List.map_cons, ← Node.toNode_of_element? hnode]
      cases hadd : found.add file e with
      | ok found' => rw [gather_of_add_ok hadd, gather_of_add_ok hadd, ih]
      | error f => rw [gather_of_add_error hadd, gather_of_add_error hadd]

/-- Errors of imports have no lines in them. -/
theorem shifted_of_componentImport (k : Nat) {e : Element} {fault : TemplateFault}
    (h : e.componentImport = .error fault) : fault.shifted k = fault := by
  unfold Element.componentImport at h
  dsimp only at h
  generalize Text.trim (if e.attr "name" = [] then _ else _) = called at h
  split at h
  · cases h
    rfl
  · split at h
    · cases h
    · cases h
      rfl

/-- What an element adds to the findings does not depend on lines. -/
theorem add_shifted (k : Nat) (file : Text) (found : Findings) (e : Element) :
    (found.shifted k).add file (e.shifted k) = (found.add file e).map (Findings.shifted k) := by
  have hname : (e.shifted k).name = e.name := rfl
  have hattr : (e.shifted k).attr "rel" = e.attr "rel" := rfl
  have himport : (e.shifted k).componentImport = e.componentImport := rfl
  unfold Findings.add
  rw [hname, hattr, himport]
  by_cases htemplate : e.name = "template"
  · rw [if_pos htemplate, if_pos htemplate]
    cases hroot : found.root with
    | none => simp [Findings.shifted, hroot, Except.map]
    | some root => simp [Findings.shifted, hroot, Except.map, Notice.shifted, Element.shifted]
  · rw [if_neg htemplate, if_neg htemplate]
    by_cases hlink : e.name = "link" ∧ e.attr "rel" = "import"
    · rw [if_pos hlink, if_pos hlink]
      cases e.componentImport with
      | ok i => rfl
      | error f => rfl
    · rw [if_neg hlink, if_neg hlink]
      rfl

theorem gather_shifted (k : Nat) (file : Text) (found : Findings) (es : List Element) :
    gather file (found.shifted k) ((es.map (Element.shifted k)).map Element.toNode) =
      shiftedResult k (gather file found (es.map Element.toNode)) := by
  induction es generalizing found with
  | nil =>
    simp only [List.map_nil, gather]
    cases hroot : found.root with
    | none => simp [Findings.shifted, hroot, shiftedResult, Except.map, Except.mapError,
        Failure.shifted, TemplateError.shifted, TemplateFault.shifted]
    | some root => simp [Findings.shifted, hroot, shiftedResult, Except.map, Except.mapError,
        Notice.shifted, Template.shifted, Element.shifted, length_shiftedAll]
  | cons e es ih =>
    have hadd := add_shifted k file found e
    rw [List.map_cons, List.map_cons, List.map_cons]
    cases hfound : found.add file e with
    | ok found' =>
      rw [hfound] at hadd
      rw [gather_of_add_ok hfound, gather_of_add_ok hadd, ih]
    | error f =>
      rw [hfound] at hadd
      rw [gather_of_add_error hfound, gather_of_add_error hadd]
      have hfault := shifted_of_componentImport k (import_of_add_error hfound).2
      simp [shiftedResult, Findings.shifted, Except.map, Except.mapError, Failure.shifted,
        TemplateError.shifted, hfault, Element.shifted]

/-- Reported lines are true, for every text: each element and each error is on the line where
its tag begins. Blanks before a text make all lines later by the line feeds among them, and
change nothing else. -/
theorem parse_lines_true (file content : Text) :
    LinesTrue file content ∧
    ∀ w : Text, w.blank = true →
      Template.parse file (w ++ content) =
        shiftedResult (w.count '\n') (Template.parse file content) := by
  refine ⟨⟨?_, ?_, ?_, ?_, ?_, ?_⟩, fun w hw => ?_⟩
  · intro offset event
    exact Markup.tagAt_of_eventsAt
  · intro nodes
    exact headings_of_documentNodes
  · intro t h
    obtain ⟨nodes, hnodes, hroot, -⟩ := root_of_parse (Prod.ext rfl h)
    exact ⟨nodes, hnodes, hroot⟩
  · intro nodes h
    exact (ordered_lines content).sublist (lines_of_documentNodes h)
  · intro nodes h line hline
    obtain ⟨here, -, rfl⟩ := List.mem_map.mp ((lines_of_documentNodes h).subset hline)
    exact lineAt_le content here.1
  · intro fault blame line h
    have herror := errorAt_of_parse h
    refine ⟨herror, fun n hn => ?_⟩
    cases hn
    obtain ⟨offset, rfl⟩ := herror.exists_offset
    exact lineAt_le content offset
  · unfold Template.parse
    rcases documentNodes_blank file hw content with
      ⟨nodes, nodes', hnodes, hnodes', hsame⟩ | ⟨f, hf, hf'⟩
    · rw [hnodes, hnodes']
      simp only
      rw [gather_elements file {} nodes', hsame, gather_elements file {} nodes]
      exact gather_shifted _ file {} _
    · rw [hf, hf']
      rfl

/-- A page whose comment, tags and texts run over several lines, and whose first pass ends
early. -/
def multilinePage : Text :=
  "<!-- a\n b -->\n<link\n rel=import href=row>&#;\n" ++
    "<template\n><p>x\n<br>\ny</p>\n<row/></template>"

/-- A page with a closing tag that does not fit. -/
def mismatchedPage : Text := "<template>\n<p\n>x</i></p></template>"

def Template.lines (t : Template) : List Nat := t.root.toNode.subtree.filterMap Node.line?

/-- The message with which a page is turned down. -/
def complaint? (result : List Notice × Except Failure Template) : Option Text :=
  match result.2 with
  | .ok _ => none
  | .error f => some f.message

theorem multilinePage_lines_true :
    LinesTrue [] multilinePage ∧ LinesTrue [] mismatchedPage ∧ Text.blank "\n \n" = true ∧
    (Template.parse [] multilinePage).2.toOption.map Template.lines = some [5, 6, 6, 7, 7, 9] ∧
    (Template.parse [] ("\n \n" ++ multilinePage)).2.toOption.map Template.lines =
      some [7, 8, 8, 9, 9, 11] ∧
    complaint? (Template.parse [] mismatchedPage) =
      some "line 3: Expected </p> (opened on line 2) but found </i>" ∧
    complaint? (Template.parse [] ("\n \n" ++ mismatchedPage)) =
      some "line 5: Expected </p> (opened on line 4) but found </i>" := by
  have hblank : Text.blank "\n \n" = true := by decide
  obtain ⟨htrue, hlater⟩ := parse_lines_true [] multilinePage
  obtain ⟨htorn, htornLater⟩ := parse_lines_true [] mismatchedPage
  rw [hlater _ hblank, htornLater _ hblank]
  exact ⟨htrue, htorn, hblank, by decide +kernel, by decide +kernel, by decide +kernel,
    by decide +kernel⟩

end JsxTemplate
