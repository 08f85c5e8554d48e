import JsxTemplate.Template.Document
import JsxTemplate.Proofs.Text

/-!
# Printing templates

A tree is printed with its layout left open: blanks may stand before and behind
every tag and every text, a space of a text may be any run of blanks, and an
element without children has two spellings. Canonical trees are those whose
layout does not show in the tree.
-/

namespace JsxTemplate

open Markup (isReferenceChar)

/-! ## Canonical trees -/

/-- A character of an ordinary name. -/
def isOrdinary (c : Char) : Bool := c.isLower || c.isDigit || c == '-'

/-- A name of small letters, digits and dashes that begins with a letter. -/
def isOrdinaryName : Text → Bool
  | [] => false
  | c :: s => c.isLower && s.all isOrdinary

/-- Does a run of characters with a property begin here, and a semicolon end it? -/
def endsInSemicolon (p : Char → Bool) (s : Text) : Bool :=
  !(s.takeWhile p).isEmpty && (s.dropWhile p).head? == some ';'

/-- Does a complete reference go on here, after its ampersand? -/
def completesReference : Text → Bool
  | '#' :: 'x' :: s => endsInSemicolon Text.isHexDigit s
  | '#' :: 'X' :: s => endsInSemicolon Text.isHexDigit s
  | '#' :: s => endsInSemicolon Char.isDigit s
  | c :: s => c.isAlpha && endsInSemicolon isReferenceChar (c :: s)
  | [] => false

/-- No tag begins in a text, and every ampersand in it begins a reference. -/
def isEncoded : Text → Bool
  | [] => true
  | c :: s => c != '<' && (c != '&' || completesReference s) && isEncoded s

/-- The attributes that a printed tag can carry. -/
structure CanonicalAttrs (attrs : Attrs) : Prop where
  named : attrs.all (fun a => isOrdinaryName a.1) = true
  valued : attrs.all (fun a => a.2.isSome) = true
  distinct : (attrs.map Prod.fst).Nodup

theorem CanonicalAttrs.map_getD {attrs : Attrs} (h : CanonicalAttrs attrs) :
    attrs.map (fun a => (a.1, some (a.2.getD []))) = attrs := by
  refine (List.map_congr_left fun a ha => ?_).trans attrs.map_id
  obtain ⟨name, value⟩ := a
  obtain ⟨v, rfl⟩ := Option.isSome_iff_exists.mp (List.all_eq_true.mp h.valued _ ha)
  rfl

def Node.isText : Node → Bool
  | .text _ _ => true
  | _ => false

/-- Nodes that are what their printed form reads as. -/
inductive Canonical : List Node → Prop
  | nil : Canonical []
  | text {value : Text} {line : Nat} {ns : List Node} (filled : value ≠ [])
      (collapsed : value.Collapsed) (encoded : isEncoded value = true)
      (apart : ns.head?.any Node.isText = false) (more : Canonical ns) :
      Canonical (.text value line :: ns)
  | element {name : Text} {attrs : Attrs} {children ns : List Node} {line : Nat}
      (named : isOrdinaryName name = true) (parsed : name ≠ "script" ∧ name ≠ "style")
      (attributes : CanonicalAttrs attrs) (void : isVoid name = true → children = [])
      (inside : Canonical children) (more : Canonical ns) :
      Canonical (.element name attrs children line :: ns)

/-! ## The printed form -/

/-- A value between double quotes: ampersands and double quotes are written as
references. -/
def escapeValue (value : Text) : Text :=
  value.flatMap fun c => if c = '&' then "&amp;" else if c = '"' then "&quot;" else [c]

def printAttr (attr : Text × Option Text) : Text :=
  ' ' :: attr.1 ++ '=' :: '"' :: escapeValue (attr.2.getD []) ++ ['"']

/-- The inside of a tag: its name and its attributes. -/
def printTag (name : Text) (attrs : Attrs) : Text := name ++ attrs.flatMap printAttr

/-- `s` is a printed form of some nodes, in one of the layouts they have. -/
inductive Printed : List Node → Text → Prop
  | nil {gap : Text} (blanks : gap.blank = true) : Printed [] gap
  | text {gap value s rest : Text} {line : Nat} {ns : List Node} (blanks : gap.blank = true)
      (spaced : Text.Respaced value s) (more : Printed ns rest) :
      Printed (.text value line :: ns) (gap ++ s ++ rest)
  | void {gap name rest : Text} {attrs : Attrs} {line : Nat} {ns : List Node}
      (blanks : gap.blank = true) (void : isVoid name = true) (more : Printed ns rest) :
      Printed (.element name attrs [] line :: ns)
        (gap ++ '<' :: printTag name attrs ++ '>' :: rest)
  | empty {gap name rest : Text} {attrs : Attrs} {line : Nat} {ns : List Node}
      (blanks : gap.blank = true) (open_ : isVoid name = false) (more : Printed ns rest) :
      Printed (.element name attrs [] line :: ns)
        (gap ++ '<' :: printTag name attrs ++ ' ' :: '/' :: '>' :: rest)
  | element {gap name body rest : Text} {attrs : Attrs} {children ns : List Node} {line : Nat}
      (blanks : gap.blank = true) (open_ : isVoid name = false) (inside : Printed children body)
      (more : Printed ns rest) :
      Printed (.element name attrs children line :: ns)
        (gap ++ '<' :: printTag name attrs ++ '>' :: body ++ '<' :: '/' :: name ++ '>' :: rest)

/-! ## Encoded texts -/

/-- What stands between the ampersand and the semicolon of a reference. -/
inductive Reference : Text → Prop
  | hex {mark : Char} {run : Text} (marked : mark = 'x' ∨ mark = 'X') (filled : run ≠ [])
      (digits : run.all Text.isHexDigit = true) : Reference ('#' :: mark :: run)
  | decimal {run : Text} (filled : run ≠ []) (digits : run.all Char.isDigit = true) :
      Reference ('#' :: run)
  | named {c : Char} {run : Text} (letter : c.isAlpha = true)
      (chars : (c :: run).all isReferenceChar = true) : Reference (c :: run)

theorem endsInSemicolon_iff {p : Char → Bool} (hp : p ';' = false) {s : Text} :
    endsInSemicolon p s = true ↔
      ∃ run after, s = run ++ ';' :: after ∧ run ≠ [] ∧ run.all p = true := by
  rw [endsInSemicolon, Bool.and_eq_true, Bool.not_eq_true', List.isEmpty_eq_false_iff,
    beq_iff_eq]
  constructor
  · rintro ⟨hne, hhead⟩
    obtain ⟨after, hafter⟩ := List.head?_eq_some_iff.mp hhead
    refine ⟨s.takeWhile p, after, ?_, hne, List.all_takeWhile⟩
    rw [← hafter, List.takeWhile_append_dropWhile]
  · rintro ⟨run, after, rfl, hne, hrun⟩
    obtain ⟨htake, hdrop⟩ := @Text.takeWhile_run p run (List.all_eq_true.mp hrun) (';' :: after)
      (by simp [hp])
    rw [htake, hdrop]
    exact ⟨hne, rfl⟩

theorem completesReference_iff {s : Text} :
    completesReference s = true ↔ ∃ ref after, s = ref ++ ';' :: after ∧ Reference ref := by
  have hhex {t : Text} := @endsInSemicolon_iff Text.isHexDigit (by decide) t
  have hdec {t : Text} := @endsInSemicolon_iff Char.isDigit (by decide) t
  have hname {t : Text} := @endsInSemicolon_iff isReferenceChar (by decide) t
  constructor
  · intro h
    unfold completesReference at h
    split at h
    · obtain ⟨run, after, rfl, hne, hrun⟩ := hhex.mp h
      exact ⟨_, after, rfl, .hex (.inl rfl) hne hrun⟩
    · obtain ⟨run, after, rfl, hne, hrun⟩ := hhex.mp h
      exact ⟨_, after, rfl, .hex (.inr rfl) hne hrun⟩
    · obtain ⟨run, after, rfl, hne, hrun⟩ := hdec.mp h
      exact ⟨_, after, rfl, .decimal hne hrun⟩
    · next c t _ _ _ =>
      rw [Bool.and_eq_true] at h
      obtain ⟨run, after, hs, hne, hrun⟩ := hname.mp h.2
      obtain ⟨d, run, rfl⟩ := List.exists_cons_of_ne_nil hne
      cases (List.cons.inj hs).1
      exact ⟨_, after, hs, .named h.1 hrun⟩
    · cases h
  · rintro ⟨ref, after, rfl, href⟩
    cases href with
    | @hex mark run marked filled digits =>
      have hends := hhex.mpr ⟨run, after, rfl, filled, digits⟩
      rcases marked with rfl | rfl
      · exact hends
      · exact hends
    | @decimal run filled digits =>
      have hends := hdec.mpr ⟨run, after, rfl, filled, digits⟩
      obtain ⟨d, run, rfl⟩ := List.exists_cons_of_ne_nil filled
      rw [List.all_cons, Bool.and_eq_true] at digits
      -- a digit is none of the marks of hexadecimal numbers
      unfold completesReference
      split
      · next h =>
        cases h
        cases digits.1
      · next h =>
        cases h
        cases digits.1
      · next h =>
        cases h
        exact hends
      · next hhash h => exact absurd (List.cons.inj h).1.symm hhash
      · next h => cases h
    | @named c run letter chars =>
      have hends := hname.mpr ⟨c :: run, after, rfl, List.cons_ne_nil c run, chars⟩
      have hhash : c ≠ '#' := by
        rintro rfl
        cases letter
      unfold completesReference
      split
      · next h => exact absurd (List.cons.inj h).1 hhash
      · next h => exact absurd (List.cons.inj h).1 hhash
      · next h => exact absurd (List.cons.inj h).1 hhash
      · next h =>
        cases h
        rw [letter, Bool.true_and]
        exact hends
      · next h => cases h

theorem Reference.space_not_mem {ref : Text} (h : Reference ref) : ' ' ∉ ref := by
  cases h with
  | @hex mark run marked filled digits =>
    have hrun : ' ' ∉ run := fun hmem => absurd (List.all_eq_true.mp digits _ hmem) (by decide)
    rcases marked with rfl | rfl
    · simp [hrun]
    · simp [hrun]
  | @decimal run filled digits =>
    have hrun : ' ' ∉ run := fun hmem => absurd (List.all_eq_true.mp digits _ hmem) (by decide)
    simp [hrun]
  | named letter chars => exact fun hmem => absurd (List.all_eq_true.mp chars _ hmem) (by decide)

/-- Whether a reference is complete shows in front of the first space. -/
theorem Text.Respaced.completesReference {v s : Text} (h : Text.Respaced v s)
    (hv : completesReference v = true) : completesReference s = true := by
  obtain ⟨ref, after, rfl, href⟩ := completesReference_iff.mp hv
  have hspace : ' ' ∉ ref ++ [';'] := by simp [href.space_not_mem]
  rw [List.append_cons] at h
  obtain ⟨t, rfl⟩ := h.exists_append hspace
  exact completesReference_iff.mpr ⟨ref, t, (List.append_cons ref ';' t).symm, href⟩

theorem isEncoded_of_append {a s : Text} (h : isEncoded (a ++ s) = true) : isEncoded s = true := by
  induction a with
  | nil => exact h
  | cons c a ih =>
    rw [List.cons_append, isEncoded, Bool.and_eq_true] at h
    exact ih h.2

theorem isEncoded_append {a b : Text} (ha : isEncoded a = true) (hb : isEncoded b = true) :
    isEncoded (a ++ b) = true := by
  induction a with
  | nil => exact hb
  | cons c a ih =>
    rw [isEncoded, Bool.and_eq_true, Bool.and_eq_true, Bool.or_eq_true] at ha
    rw [List.cons_append, isEncoded, Bool.and_eq_true, Bool.and_eq_true, Bool.or_eq_true]
    refine ⟨⟨ha.1.1, ha.1.2.imp_right fun href => ?_⟩, ih ha.2⟩
    obtain ⟨ref, after, rfl, hin⟩ := completesReference_iff.mp href
    exact completesReference_iff.mpr ⟨ref, after ++ b, by simp, hin⟩

theorem isEncoded_of_blank {s : Text} (h : s.blank = true) : isEncoded s = true := by
  induction s with
  | nil => rfl
  | cons c s ih =>
    rw [Text.blank_cons, Bool.and_eq_true] at h
    have hlt : c ≠ '<' := by
      rintro rfl
      cases h.1
    have hamp : c ≠ '&' := by
      rintro rfl
      cases h.1
    simp [isEncoded, hlt, hamp, ih h.2]

theorem Text.Respaced.isEncoded {v s : Text} (h : Text.Respaced v s)
    (hv : isEncoded v = true) : isEncoded s = true := by
  induction h with
  | nil => rfl
  | char other more ih =>
    rw [JsxTemplate.isEncoded, Bool.and_eq_true, Bool.and_eq_true, Bool.or_eq_true] at hv ⊢
    exact ⟨⟨hv.1.1, hv.1.2.imp_right more.completesReference⟩, ih hv.2⟩
  | space filled blanks more ih =>
    rw [JsxTemplate.isEncoded, Bool.and_eq_true] at hv
    exact isEncoded_append (isEncoded_of_blank blanks) (ih hv.2)

/-! ## Trees without their lines -/

mutual

/-- A node with every line forgotten. -/
def Node.unlined : Node → Node
  | .text value _ => .text value 0
  | .element name attrs children _ => .element name attrs (unlinedAll children) 0
  | .stray value => .stray value

def unlinedAll : List Node → List Node
  | [] => []
  | n :: ns => n.unlined :: unlinedAll ns

end

theorem unlinedAll_append (ns ms : List Node) :
    unlinedAll (ns ++ ms) = unlinedAll ns ++ unlinedAll ms := by
  induction ns with
  | nil => rfl
  | cons n ns ih => rw [List.cons_append, unlinedAll, unlinedAll, ih, List.cons_append]

theorem length_unlinedAll (ns : List Node) : (unlinedAll ns).length = ns.length := by
  induction ns with
  | nil => rfl
  | cons n ns ih => rw [unlinedAll, List.length_cons, List.length_cons, ih]

end JsxTemplate
