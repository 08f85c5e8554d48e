import JsxTemplate.Proofs.Code
import JsxTemplate.Proofs.Table
import JsxTemplate.Proofs.Unreadable
import Mathlib.Data.List.Forall2

/-!
# Imported components

The components that a template imports are named after their tags, so that a tag stands
for one name however often it is imported. An element with such a tag is written under
the name of a component that the module imports, and any other element under its own.
-/

namespace JsxTemplate

open Jsx

/-! ## Names of components -/

namespace Jsx

/-- A capital, and then letters and digits. -/
def IsComponentName (name : Text) : Prop :=
  ∃ c rest, name = c :: rest ∧ c.isUpper = true ∧ ∀ d ∈ rest, d.isAlphanum = true

theorem isAlphanum_lt {c : Char} (h : c.isAlphanum = true) : c.toNat < 128 := by
  have hcases : ((c.isUpper || c.isLower) || c.isDigit) = true := h
  rw [Bool.or_eq_true, Bool.or_eq_true] at hcases
  rcases hcases with (h | h) | h
  · have hlast : c ≤ 'Z' := (of_decide_eq_true h).2
    exact Nat.lt_of_le_of_lt hlast (by decide)
  · have hlast : c ≤ 'z' := of_decide_eq_true (Bool.and_eq_true_iff.mp h).2
    exact Nat.lt_of_le_of_lt hlast (by decide)
  · have hlast : c ≤ '9' := of_decide_eq_true (Bool.and_eq_true_iff.mp h).2
    exact Nat.lt_of_le_of_lt hlast (by decide)

/-- What holds of each of the first 128 characters. -/
theorem of_ascii (P : Char → Prop) (h : ∀ n < 128, P (Char.ofNat n)) {c : Char}
    (hc : c.toNat < 128) : P c := by
  have hp := h c.toNat hc
  rwa [Char.ofNat_toNat] at hp

/-- Made a capital, a letter or digit is a capital or a digit. -/
theorem toUpper_of_isAlphanum {c : Char} (h : c.isAlphanum = true) :
    c.toUpper.isAlphanum = true ∧ (c.toUpper.isUpper || c.toUpper.isDigit) = true :=
  of_ascii (fun c => c.isAlphanum = true →
      c.toUpper.isAlphanum = true ∧ (c.toUpper.isUpper || c.toUpper.isDigit) = true)
    (by decide +kernel) (isAlphanum_lt h) h

/-- A letter or digit begins a word or comes before the first one. -/
theorem nameWords_cons {c : Char} (hc : c.isAlphanum = true) (s : Text) :
    nameWords (c :: s) = [c] :: nameWords s ∨
      ∃ word words, nameWords s = word :: words ∧ nameWords (c :: s) = (c :: word) :: words := by
  rw [nameWords.eq_def (c :: s)]
  simp only [hc, ↓reduceIte]
  split
  · next word words hwords =>
    split
    · exact .inr ⟨word, words, hwords, rfl⟩
    · exact .inl (by rw [hwords])
  · exact .inl rfl

theorem of_mem_nameWords : ∀ {s word : Text}, word ∈ nameWords s →
    word ≠ [] ∧ ∀ c ∈ word, c ∈ s ∧ c.isAlphanum = true
  | [], word, h => by cases h
  | c :: s, word, h => by
    have hbehind : ∀ {w}, w ∈ nameWords s →
        w ≠ [] ∧ ∀ d ∈ w, d ∈ c :: s ∧ d.isAlphanum = true := by
      intro w hw
      obtain ⟨hne, hall⟩ := of_mem_nameWords hw
      exact ⟨hne, fun d hd => ⟨List.mem_cons_of_mem _ (hall d hd).1, (hall d hd).2⟩⟩
    by_cases hc : c.isAlphanum = true
    · have hself : c ∈ c :: s ∧ c.isAlphanum = true := ⟨List.mem_cons_self, hc⟩
      rcases nameWords_cons hc s with hwords | ⟨first, words, hs, hwords⟩
      · rw [hwords, List.mem_cons] at h
        rcases h with rfl | h
        · exact ⟨List.cons_ne_nil _ _, List.forall_mem_singleton.mpr hself⟩
        · exact hbehind h
      · rw [hwords, List.mem_cons] at h
        rcases h with rfl | h
        · obtain ⟨-, hfirst⟩ := hbehind (hs ▸ List.mem_cons_self : first ∈ nameWords s)
          exact ⟨List.cons_ne_nil _ _, List.forall_mem_cons.mpr ⟨hself, hfirst⟩⟩
        · exact hbehind (hs ▸ List.mem_cons_of_mem _ h : word ∈ nameWords s)
    · unfold nameWords at h
      rw [if_neg hc] at h
      exact hbehind h

theorem isAlphanum_of_mem_pascalCase {s : Text} {c : Char} (h : c ∈ pascalCase s) :
    c.isAlphanum = true := by
  obtain ⟨word, hword, hc⟩ := List.mem_flatMap.mp h
  obtain ⟨hne, hall⟩ := of_mem_nameWords hword
  obtain ⟨first, rest, rfl⟩ := List.exists_cons_of_ne_nil hne
  obtain ⟨hfirst, hrest⟩ := List.forall_mem_cons.mp hall
  rcases List.mem_cons.mp hc with rfl | hc
  · exact (toUpper_of_isAlphanum hfirst.2).1
  · exact (hrest c hc).2

/-- What is made of a name begins with a capital if it can name a component. -/
theorem isComponentName_of_isIdentifier {s : Text} (h : isIdentifier (pascalCase s) = true) :
    IsComponentName (pascalCase s) := by
  cases hname : pascalCase s with
  | nil =>
    rw [hname] at h
    cases h
  | cons c rest =>
    have hall : ∀ d ∈ c :: rest, d.isAlphanum = true := fun d hd =>
      isAlphanum_of_mem_pascalCase (hname ▸ hd)
    refine ⟨c, rest, rfl, ?_, (List.forall_mem_cons.mp hall).2⟩
    -- the first character is that of the first word, made a capital
    cases hwords : nameWords s with
    | nil =>
      rw [pascalCase, hwords] at hname
      cases hname
    | cons word words =>
      obtain ⟨hne, hword⟩ := of_mem_nameWords (hwords ▸ List.mem_cons_self : word ∈ nameWords s)
      obtain ⟨first, more, rfl⟩ := List.exists_cons_of_ne_nil hne
      rw [pascalCase, hwords, List.flatMap_cons] at hname
      obtain ⟨rfl, -⟩ := List.cons_eq_cons.mp hname
      obtain ⟨-, hcapital⟩ := toUpper_of_isAlphanum (hword first List.mem_cons_self).2
      rw [pascalCase, hwords, List.flatMap_cons] at h
      have hdigit : first.toUpper.isDigit = false := by simpa [isIdentifier, Text.capitalize] using h
      rwa [hdigit, Bool.or_false] at hcapital

end Jsx

/-! ## The imports of a template -/

/-- A link that imports a component. -/
def Element.isImport (e : Element) : Bool := e.name = "link" ∧ e.attr "rel" = "import"

/-- The links among the nodes of a file that import components, in order. -/
def importLinks (nodes : List Node) : List Element :=
  (nodes.filterMap Node.element?).filter Element.isImport

theorem componentImport_eq_ok {e : Element} {i : ComponentImport} (h : e.componentImport = .ok i) :
    i.source = (e.attr "href").trim ∧ (∃ called, i.tag = Text.lower called) ∧
      i.identifier = pascalCase i.tag ∧ IsComponentName i.identifier := by
  unfold Element.componentImport at h
  dsimp only at h
  -- the link's name or that of the file, which makes no difference here
  generalize Text.trim (if e.attr "name" = [] then _ else _) = called at h
  split at h
  · cases h
  · split at h
    · next hname =>
      cases h
      exact ⟨rfl, ⟨called, rfl⟩, rfl, isComponentName_of_isIdentifier hname⟩
    · cases h

/-- An element adds the component that it imports, if it is a link that does. -/
theorem imports_of_add {file : Text} {found found' : Findings} {e : Element}
    (h : found.add file e = .ok found') :
    (e.isImport = true ∧ ∃ i, e.componentImport = .ok i ∧ found'.imports = found.imports ++ [i]) ∨
      e.isImport = false ∧ found'.imports = found.imports := by
  unfold Findings.add at h
  split at h
  · next hname =>
    have hlink : e.isImport = false := by
      refine decide_eq_false fun hlink => ?_
      rw [hname] at hlink
      exact absurd hlink.1 (by decide)
    split at h
    · cases h
      exact .inr ⟨hlink, rfl⟩
    · cases h
      exact .inr ⟨hlink, rfl⟩
  · split at h
    · next hlink =>
      split at h
      · next i hi =>
        cases h
        exact .inl ⟨decide_eq_true hlink, i, hi, rfl⟩
      · cases h
    · next hlink =>
      cases h
      exact .inr ⟨decide_eq_false hlink, rfl⟩

theorem imports_of_gather {file : Text} {found : Findings} {nodes : List Node} {t : Template}
    (h : (gather file found nodes).2 = .ok t) :
    ∃ imports, t.imports = found.imports ++ imports ∧
      (importLinks nodes).map Element.componentImport = imports.map .ok := by
  induction nodes generalizing found with
  | nil =>
    rw [gather] at h
    split at h
    · cases h
    · cases h
      exact ⟨[], (List.append_nil _).symm, rfl⟩
  | cons node nodes ih =>
    rw [gather] at h
    unfold importLinks
    rw [List.filterMap_cons]
    cases hnode : node.element? with
    | none =>
      rw [hnode] at h
      exact ih h
    | some e =>
      rw [hnode] at h
      simp only at h ⊢
      cases hadd : found.add file e with
      | error f =>
        rw [hadd] at h
        cases h
      | ok found' =>
        rw [hadd] at h
        obtain ⟨imports, himports, hlinks⟩ := ih h
        rcases imports_of_add hadd with ⟨hlink, i, hi, hfound⟩ | ⟨hlink, hfound⟩
        · refine ⟨i :: imports, ?_, ?_⟩
          · rw [himports, hfound, List.append_assoc, List.singleton_append]
          · rw [List.filter_cons_of_pos hlink, List.map_cons, List.map_cons, hi]
            exact congrArg _ hlinks
        · refine ⟨imports, himports.trans (congrArg (· ++ imports) hfound), ?_⟩
          rw [List.filter_cons_of_neg (Bool.eq_false_iff.mp hlink)]
          exact hlinks

/-- A template that is read imports the components of the links in its file, in order. -/
theorem imports_of_parse {file content : Text} {notices : List Notice} {t : Template}
    (h : Template.parse file content = (notices, .ok t)) :
    ∃ nodes, documentNodes file content = .ok nodes ∧
      (importLinks nodes).map Element.componentImport = t.imports.map .ok := by
  unfold Template.parse at h
  cases hnodes : documentNodes file content with
  | error f =>
    rw [hnodes] at h
    cases h
  | ok nodes =>
    rw [hnodes] at h
    have hgather : (gather file {} nodes).2 = .ok t := congrArg Prod.snd h
    obtain ⟨imports, himports, hlinks⟩ := imports_of_gather hgather
    exact ⟨nodes, rfl, himports ▸ hlinks⟩

theorem exists_link_of_import {nodes : List Node} {imports : List ComponentImport}
    (h : (importLinks nodes).map Element.componentImport = imports.map .ok)
    {i : ComponentImport} (hi : i ∈ imports) :
    ∃ e ∈ importLinks nodes, e.componentImport = .ok i :=
  List.mem_map.mp (h.symm ▸ List.mem_map_of_mem hi)

namespace Template

variable {t : Template}

theorem map_fst_aliases : t.aliases.map Prod.fst = (t.imports.map ComponentImport.tag).eraseDups := by
  rw [aliases, Table.map_fst_ofEntries, List.map_map]
  rfl

/-- A tag that is no import's has no alias. -/
theorem aliases_of_not_mem {tag : Text} (h : ∀ i ∈ t.imports, i.tag ≠ tag) :
    t.aliases.get? tag = none := by
  rw [← Option.not_isSome_iff_eq_none, Table.isSome_get?_iff, map_fst_aliases, List.mem_eraseDups,
    List.mem_map]
  rintro ⟨i, hi, htag⟩
  exact h i hi htag

/-- A tag stands for the name of each component that is imported under it, whichever link
came last, for the name is made from the tag. -/
theorem aliases_of_mem (hnames : ∀ i ∈ t.imports, i.identifier = pascalCase i.tag)
    {i : ComponentImport} (hi : i ∈ t.imports) : t.aliases.get? i.tag = some i.identifier := by
  have hsome : (t.aliases.get? i.tag).isSome := by
    rw [Table.isSome_get?_iff, map_fst_aliases, List.mem_eraseDups]
    exact List.mem_map_of_mem hi
  obtain ⟨identifier, hget⟩ := Option.isSome_iff_exists.mp hsome
  obtain ⟨j, hj, hentry⟩ := List.mem_map.mp
    (Table.mem_of_mem_ofEntries (Table.mem_of_get? hget))
  obtain ⟨htag, rfl⟩ := Prod.mk.injEq .. ▸ hentry
  rw [hget, hnames i hi, ← htag, hnames j hj]

end Template

/-! ## Tags in code -/

/-- The name of a plain element. -/
def Node.plainName? : Node → Option Text
  | .element name _ _ _ => if name = controlName then none else some name
  | .text _ _ => none
  | .stray _ => none

/-- The names of the plain elements at a node and below it, in document order. -/
def Node.plainNames (n : Node) : List Text := n.subtree.filterMap Node.plainName?

namespace Jsx

namespace Code

mutual

/-- The tags of the elements in code, in document order. -/
def tags : Code → List Text
  | .text _ => []
  | .element tag _ children => tag :: tagsAll children
  | .conditional _ operand => operand.tags
  | .loop _ _ operand => operand.tags

def tagsAll : List Code → List Text
  | [] => []
  | c :: cs => c.tags ++ tagsAll cs

end

end Code

namespace Renderer

variable (r : Renderer)

theorem plainNames_element (name : Text) (attrs : Attrs) (children : List Node) (line : Nat) :
    (Node.element name attrs children line).plainNames =
      (if name = controlName then [] else [name]) ++ children.flatMap Node.plainNames := by
  rw [Node.plainNames, Node.subtree_element, List.filterMap_cons, List.filterMap_flatMap,
    Node.plainName?]
  by_cases hname : name = controlName
  · rw [if_pos hname, if_pos hname]
    rfl
  · rw [if_neg hname, if_neg hname]
    rfl

mutual

/-- The tags of code are the names of the plain elements, each by its alias. -/
theorem tags_of_code : ∀ (n : Node) {c : Code}, r.code n = .ok c →
    c.tags = n.plainNames.map r.tagName
  | .text value line, c, h => by
    cases h
    rfl
  | .stray value, c, h => by cases h
  | .element name attrs children line, c, h => by
    rw [plainNames_element]
    cases r.coded_of_code h with
    | @control _ child _ c operand _ hoperand =>
      have htags : (Code.ofControl c operand).tags = operand.tags := by
        cases c <;> rw [Code.ofControl, Code.tags]
      rw [htags, tags_of_code child hoperand, if_pos rfl, List.nil_append, List.flatMap_singleton]
    | element hname hprops hchildren =>
      rw [if_neg hname, Code.tags, tagsAll_of_code children hchildren]
      rfl

theorem tagsAll_of_code : ∀ (ns : List Node) {codes : List Code}, r.codeAll ns = .ok codes →
    Code.tagsAll codes = (ns.flatMap Node.plainNames).map r.tagName
  | [], codes, h => by
    cases h
    rfl
  | n :: ns, codes, h => by
    obtain ⟨first, others, hfirst, hothers, rfl⟩ := r.codeAll_cons_eq_ok h
    rw [Code.tagsAll, tags_of_code n hfirst, tagsAll_of_code ns hothers, List.flatMap_cons,
      List.map_append]

end

end Renderer

end Jsx

/-! ## Import lines -/

/-- A text that is made of whole lines. -/
def WholeLines (s : Text) : Prop := s = [] ∨ s.getLast? = some '\n'

/-- A text in which a line stands where one begins. -/
def HasLine (line text : Text) : Prop :=
  ∃ before after, text = before ++ line ++ after ∧ WholeLines before

theorem WholeLines.append {s t : Text} (hs : WholeLines s) (ht : WholeLines t) :
    WholeLines (s ++ t) := by
  rcases ht with rfl | ht
  · rwa [List.append_nil]
  · refine .inr ?_
    rw [List.getLast?_append, ht, Option.some_or]

theorem ComponentImport.line_eq (i : ComponentImport) :
    i.line = ("import " ++ i.identifier ++ " from '" ++ i.source : Text) ++ ("';\n" : Text) :=
  rfl

theorem wholeLines_imports (imports : List ComponentImport) :
    WholeLines (imports.flatMap ComponentImport.line) := by
  induction imports with
  | nil => exact .inl rfl
  | cons i imports ih =>
    have hend : ("';\n" : Text).getLast? = some '\n' := by decide
    have hline : WholeLines i.line := by
      refine .inr ?_
      rw [ComponentImport.line_eq, List.getLast?_append, hend, Option.some_or]
    exact hline.append ih

theorem HasLine.append {line text : Text} (h : HasLine line text) (rest : Text) :
    HasLine line (text ++ rest) := by
  obtain ⟨before, after, rfl, hbefore⟩ := h
  exact ⟨before, after ++ rest, List.append_assoc _ _ _, hbefore⟩

/-- Each import of a module has its line. -/
theorem hasLine_moduleText {imports : List ComponentImport} {i : ComponentImport}
    (hi : i ∈ imports) (config : Config) (name body : Text) :
    HasLine i.line (moduleText config name body imports) := by
  obtain ⟨before, after, rfl⟩ := List.append_of_mem hi
  have hreact : WholeLines (if config.reactImport then reactLine else []) := by
    cases config.reactImport with
    | true => exact .inr rfl
    | false => exact .inl rfl
  have himports : HasLine i.line ((if config.reactImport then reactLine else []) ++
      (before ++ i :: after).flatMap ComponentImport.line) := by
    refine ⟨_, after.flatMap ComponentImport.line, ?_,
      hreact.append (wholeLines_imports before)⟩
    rw [List.flatMap_append, List.flatMap_cons]
    simp only [List.append_assoc]
  exact (((((himports.append _).append _).append _).append _).append _).append _

theorem Template.generate_eq_ok {t : Template} {config : Config} {name source : Text}
    (h : t.generate config name = .ok source) :
    ∃ body, (config.renderer t.aliases).component t.root = .ok body ∧
      source = moduleText config name body t.imports := by
  unfold generate at h
  split at h
  · next body hbody =>
    cases h
    exact ⟨body, hbody, rfl⟩
  · cases h

theorem compile_eq_ok {config : Config} {name file content source : Text} {notices : List Notice}
    {t : Template} (hparse : Template.parse file content = (notices, .ok t))
    (h : (compile config name file content).2 = .ok source) :
    t.generate config name = .ok source := by
  unfold compile at h
  rw [hparse] at h
  exact h

/-- How a tag of code stands for the name of an element: the module has a line that imports
a component of this name under the element's tag, or no component is imported under it and
the tag is the element's own. -/
def Backed (imports : List ComponentImport) (source tag name : Text) : Prop :=
  (∃ i ∈ imports, i.tag = name ∧ tag = i.identifier ∧ HasLine i.line source) ∨
    (∀ i ∈ imports, i.tag ≠ name) ∧ tag = name

/-- Each component that a template imports is named after its tag, which stands for this
name in the table of aliases, and the table has no other tags. In a module of the template
each plain element is opened and closed by a tag that an import of the module backs, or by
its own name if nothing is imported under it. -/
theorem aliased_tags_imported {file content : Text} {notices : List Notice} {t : Template}
    (hparse : Template.parse file content = (notices, .ok t)) :
    (∀ i ∈ t.imports, i.identifier = pascalCase i.tag ∧ IsComponentName i.identifier ∧
      t.aliases.get? i.tag = some i.identifier) ∧
    t.aliases.map Prod.fst = (t.imports.map ComponentImport.tag).eraseDups ∧
    ∀ config name source, (compile config name file content).2 = .ok source →
      ∃ first others code, t.root.children = first :: others ∧
        (config.renderer t.aliases).code first = .ok code ∧
        source = moduleText config name (config.indent ++ "return (\n" ++
          code.print config.indent (config.indent ++ config.indent) true ++ config.indent ++
          ");\n") t.imports ∧
        List.Forall₂ (Backed t.imports source) code.tags first.plainNames := by
  obtain ⟨nodes, -, hlinks⟩ := imports_of_parse hparse
  have hnames : ∀ i ∈ t.imports, i.identifier = pascalCase i.tag ∧
      IsComponentName i.identifier := by
    intro i hi
    obtain ⟨e, -, he⟩ := exists_link_of_import hlinks hi
    exact (componentImport_eq_ok he).2.2
  have haliases : ∀ i ∈ t.imports, t.aliases.get? i.tag = some i.identifier := fun i hi =>
    Template.aliases_of_mem (fun j hj => (hnames j hj).1) hi
  refine ⟨fun i hi => ⟨(hnames i hi).1, (hnames i hi).2, haliases i hi⟩,
    Template.map_fst_aliases, fun config name source hcompile => ?_⟩
  obtain ⟨body, hbody, rfl⟩ := Template.generate_eq_ok (compile_eq_ok hparse hcompile)
  obtain ⟨first, others, code, hroot, hcode, rfl⟩ := Renderer.component_eq_ok _ hbody
  refine ⟨first, others, code, hroot, hcode, rfl, ?_⟩
  rw [Renderer.tags_of_code _ first hcode, List.forall₂_map_left_iff, List.forall₂_same]
  intro name _
  show Backed _ _ ((t.aliases.get? name).getD name) name
  by_cases himport : ∃ i ∈ t.imports, i.tag = name
  · obtain ⟨i, hi, rfl⟩ := himport
    rw [haliases i hi]
    exact .inl ⟨i, hi, rfl, rfl, hasLine_moduleText hi _ _ _⟩
  · have hnone : ∀ i ∈ t.imports, i.tag ≠ name := fun i hi he => himport ⟨i, hi, he⟩
    rw [Template.aliases_of_not_mem hnone]
    exact .inr ⟨hnone, rfl⟩

/-- A page that imports two components under one tag, before and after its template. -/
def gallery : Text :=
  "<link rel=import href=./a name=x-y><template><x-y><i></i></x-y></template>" ++
    "<link rel=import href=./b name=X-Y>"

/-- Both imports of the page name the component alike, so its tag stands for one name. -/
theorem gallery_tags_imported :
    ∃ notices t source first others code,
      Template.parse "g.html" gallery = (notices, .ok t) ∧
      t.imports.map ComponentImport.source = ([("./a" : Text), ("./b" : Text)] : List Text) ∧
      t.aliases.map Prod.fst = (t.imports.map ComponentImport.tag).eraseDups ∧
      (compile {} "Gallery" "g.html" gallery).2 = .ok source ∧
      t.root.children = first :: others ∧
      (Config.renderer {} t.aliases).code first = .ok code ∧
      List.Forall₂ (Backed t.imports source) code.tags first.plainNames := by
  have hsources : ((Template.parse "g.html" gallery).2.toOption.map fun t =>
      t.imports.map ComponentImport.source) =
        some ([("./a" : Text), ("./b" : Text)] : List Text) := by
    decide +kernel
  have hmodule : (compile {} "Gallery" "g.html" gallery).2.toOption.isSome = true := by
    decide +kernel
  cases ht : (Template.parse "g.html" gallery).2 with
  | error _ =>
    rw [ht] at hsources
    cases hsources
  | ok t =>
    rw [ht] at hsources
    cases hs : (compile {} "Gallery" "g.html" gallery).2 with
    | error _ =>
      rw [hs] at hmodule
      cases hmodule
    | ok source =>
      have hparse : Template.parse "g.html" gallery =
          ((Template.parse "g.html" gallery).1, .ok t) := Prod.ext rfl ht
      obtain ⟨-, htags, hcode⟩ := aliased_tags_imported hparse
      obtain ⟨first, others, code, hroot, hcode, -, hbacked⟩ := hcode {} "Gallery" source hs
      exact ⟨_, t, source, first, others, code, hparse, Option.some.inj hsources, htags, rfl,
        hroot, hcode, hbacked⟩

end JsxTemplate
