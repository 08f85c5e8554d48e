import JsxTemplate.Binding.Part
import JsxTemplate.Proofs.Text
import Mathlib.Data.List.Chain
import Mathlib.Data.List.Forall2

/-!
# Lexing loses nothing

Every part of a value can be given the stretch of the value that it was lexed
from, so that the stretches in order spell the value. A binding's stretch ends
at the first closing braces. Literal parts hold no binding of their own and are
as long as they can be. The proof carries along what the pending literal text
is: lexing passes through it without change, whatever follows.
-/

namespace JsxTemplate.Part

/-- Between an opening and the first closing after it stand blanks at most. -/
def Quiet (text : Text) : Prop :=
  ∀ before inner after : Text, text = before ++ openMark ++ inner ++ closeMark ++ after →
    ¬ closeMark <:+: inner ++ ['}'] → inner.blank = true

/-- The stretch of a value that a part stands for. -/
inductive Spelled : Part → Text → Prop
  | literal {text : Text} (filled : text ≠ []) (quiet : Quiet text)
      (alone : lex text = [.literal text]) : Spelled (.literal text) text
  | binding {inner : Text} (filled : inner.trim ≠ []) (first : ¬ closeMark <:+: inner ++ ['}']) :
      Spelled (.binding inner.trim) (openMark ++ inner ++ closeMark)

/-! ## The first span -/

theorem openMark_ne_nil : openMark ≠ [] := List.cons_ne_nil _ _

theorem closeMark_ne_nil : closeMark ≠ [] := List.cons_ne_nil _ _

theorem cut?_open {before : Text} (h : ¬ openMark <:+: before ++ ['{']) (rest : Text) :
    Text.cut? openMark (before ++ openMark ++ rest) = some (before, rest) :=
  Text.cut?_append openMark_ne_nil rest h

theorem cut?_close {inner : Text} (h : ¬ closeMark <:+: inner ++ ['}']) (rest : Text) :
    Text.cut? closeMark (inner ++ closeMark ++ rest) = some (inner, rest) :=
  Text.cut?_append closeMark_ne_nil rest h

/-- What a first span is: nothing opens before it, and nothing in it closes. -/
theorem first_of_firstSpan? {s before inner rest : Text}
    (h : firstSpan? s = some (before, inner, rest)) :
    ¬ openMark <:+: before ++ ['{'] ∧ ¬ closeMark <:+: inner ++ ['}'] := by
  unfold firstSpan? at h
  split at h
  · cases h
  · next hopen =>
    split at h
    · cases h
    · next hclose =>
      cases h
      exact ⟨Text.not_infix_of_cut? openMark_ne_nil hopen,
        Text.not_infix_of_cut? closeMark_ne_nil hclose⟩

theorem firstSpan?_append {before inner : Text} (hopen : ¬ openMark <:+: before ++ ['{'])
    (hclose : ¬ closeMark <:+: inner ++ ['}']) (rest : Text) :
    firstSpan? (before ++ openMark ++ inner ++ closeMark ++ rest) = some (before, inner, rest) := by
  have ho := cut?_open hopen (inner ++ closeMark ++ rest)
  have hc := cut?_close hclose rest
  simp only [List.append_assoc] at ho hc ⊢
  simp only [firstSpan?, ho, hc]

/-- An opening that stands in a text stands at its first opening or later. -/
theorem suffix_of_not_infix {before t rest : Text} (hfirst : ¬ openMark <:+: before ++ ['{'])
    (h : openMark ++ t <:+ before ++ rest) : openMark ++ t <:+ rest := by
  induction before with
  | nil => exact h
  | cons c b ih =>
    rw [List.cons_append, List.infix_cons_iff, not_or] at hfirst
    rcases List.suffix_cons_iff.mp h with heq | hsuf
    · exfalso
      apply hfirst.1
      cases b with
      | nil =>
        have hc : '{' = c := (List.cons.inj heq).1
        exact ⟨[], by rw [← hc]; rfl⟩
      | cons d b =>
        have hc : '{' = c := (List.cons.inj heq).1
        have hd : '{' = d := (List.cons.inj (List.cons.inj heq).2).1
        exact ⟨b ++ ['{'], by rw [← hc, ← hd]; rfl⟩
    · exact ih hfirst.2 hsuf

theorem suffix_of_not_mem {c : Char} {skipped t rest : Text} (hc : c ∉ skipped)
    (h : c :: t <:+ skipped ++ rest) : c :: t <:+ rest := by
  induction skipped with
  | nil => exact h
  | cons d u ih =>
    rw [List.mem_cons, not_or] at hc
    rcases List.suffix_cons_iff.mp h with heq | hsuf
    · exact absurd (List.cons.inj heq).1 hc.1
    · exact ih hc.2 hsuf

/-- Where there is no first span, no opening is closed at all. -/
theorem not_closed_of_firstSpan? {s t rest : Text} (h : firstSpan? s = none) :
    ¬ openMark ++ (t ++ closeMark ++ rest) <:+ s := by
  intro hsuf
  unfold firstSpan? at h
  split at h
  · next hopen =>
    rw [Text.cut?_eq_none_iff openMark_ne_nil] at hopen
    exact hopen ((List.prefix_append _ _).isInfix.trans hsuf.isInfix)
  · next before inside hopen =>
    have hfirst := Text.not_infix_of_cut? openMark_ne_nil hopen
    split at h
    · next hclose =>
      rw [Text.cut?_eq_none_iff closeMark_ne_nil] at hclose
      rw [Text.eq_append_of_cut? hopen, List.append_assoc before] at hsuf
      -- the closing lies behind the first opening, since every opening does
      have hin := suffix_of_not_infix hfirst hsuf
      rw [show openMark ++ inside = '{' :: '{' :: inside from rfl] at hin
      have hrest : t ++ closeMark ++ rest <:+ inside := by
        obtain ⟨u, hu⟩ := hin
        have hlen := congrArg List.length hu
        simp only [openMark, List.length_append, List.length_cons, List.length_nil] at hlen
        refine List.suffix_of_suffix_length_le ?_ ((List.suffix_cons '{' _).trans
          (List.suffix_cons '{' _)) (by simp only [List.length_append]; omega)
        exact ⟨u ++ openMark, by rw [List.append_assoc, hu]⟩
      exact hclose (List.IsInfix.trans ⟨t, rest, rfl⟩ hrest.isInfix)
    · cases h

/-! ## Bindings are found -/

/-- The brace that opens is no blank and does not close. -/
theorem open_not_mem {inner : Text} (hblank : inner.blank = true) : '{' ∉ inner ++ closeMark := by
  intro hmem
  rcases List.mem_append.mp hmem with hin | hin
  · exact absurd (Text.blank_iff.mp hblank _ hin) (by decide)
  · exact absurd hin (by decide)

/-- A closed opening that is not the first span of a text, when that span is
blank, stands in what follows the span. -/
theorem span_cases {s before inner rest t : Text} (h : firstSpan? s = some (before, inner, rest))
    (hblank : inner.blank = true) (ht : openMark ++ t <:+ s) :
    t = inner ++ closeMark ++ rest ∨ openMark ++ t <:+ rest := by
  rw [append_of_firstSpan? h] at ht
  simp only [List.append_assoc] at ht
  have hin := suffix_of_not_infix (first_of_firstSpan? h).1 ht
  rcases List.suffix_cons_iff.mp hin with heq | hsuf
  · left
    rw [List.append_assoc]
    exact (List.cons.inj (List.cons.inj heq).2).2
  · right
    rw [← List.append_assoc] at hsuf
    rcases List.suffix_cons_iff.mp hsuf with heq | hsuf
    · -- the second brace cannot open: a blank or a closing brace follows it
      have hhead : '{' ∈ inner ++ closeMark := by
        have htwo := (List.cons.inj heq).2
        cases inner with
        | nil => exact absurd (List.cons.inj htwo).1 (by decide)
        | cons c u => exact (List.cons.inj htwo).1 ▸ List.mem_cons_self
      exact absurd hhead (open_not_mem hblank)
    · exact suffix_of_not_mem (open_not_mem hblank) hsuf

/-- A span with something in it, wherever it opens, makes lexing find a binding. -/
theorem exists_binding_of_span {inner after : Text} (hfilled : inner.blank = false)
    (hfirst : ¬ closeMark <:+: inner ++ ['}']) (literal s : Text)
    (hs : openMark ++ (inner ++ closeMark ++ after) <:+ s) :
    ∃ expression, .binding expression ∈ lexFrom literal s := by
  fun_induction lexFrom literal s with
  | case1 literal s hnone => exact absurd hs (not_closed_of_firstSpan? hnone)
  | case2 literal s before i rest hfound hblank ih =>
    rcases span_cases hfound hblank hs with heq | hsuf
    · -- both closings are the first one, so the two spans are the same
      have hleft := cut?_close hfirst after
      have hright := cut?_close (first_of_firstSpan? hfound).2 rest
      rw [heq, hright] at hleft
      cases hleft
      rw [hblank] at hfilled
      cases hfilled
    · exact ih hsuf
  | case3 literal s before i rest hfound hblank ih =>
    exact ⟨i.trim, List.mem_append_right _ List.mem_cons_self⟩

theorem quiet_of_lex {text : Text} (h : lex text = [.literal text]) : Quiet text := by
  intro before inner after htext hfirst
  by_contra hfilled
  have hsuf : openMark ++ (inner ++ closeMark ++ after) <:+ text :=
    ⟨before, by rw [htext]; simp only [List.append_assoc]⟩
  obtain ⟨expression, hmem⟩ := exists_binding_of_span (by simpa using hfilled) hfirst [] text hsuf
  rw [← lex, h] at hmem
  cases List.mem_singleton.mp hmem

/-! ## Literal text -/

/-- Lexing passes through a text and takes all of it for literal text, whatever
follows it. -/
def Transparent (text : Text) : Prop :=
  ∀ literal s : Text, lexFrom literal (text ++ s) = lexFrom (literal ++ text) s

theorem transparent_nil : Transparent [] := by
  intro literal s
  rw [List.nil_append, List.append_nil]

/-- A blank span after a transparent text leaves it transparent. -/
theorem transparent_append {text before inner : Text} (ht : Transparent text)
    (hopen : ¬ openMark <:+: before ++ ['{']) (hclose : ¬ closeMark <:+: inner ++ ['}'])
    (hblank : inner.blank = true) :
    Transparent (text ++ before ++ openMark ++ inner ++ closeMark) := by
  intro literal s
  have hspan := firstSpan?_append hopen hclose s
  have hstep : lexFrom (literal ++ text) (before ++ openMark ++ inner ++ closeMark ++ s) =
      lexFrom (literal ++ text ++ before ++ openMark ++ inner ++ closeMark) s := by
    rw [lexFrom]
    split
    · next hnone =>
      rw [hspan] at hnone
      cases hnone
    · next hsome =>
      rw [hspan] at hsome
      cases hsome
      rw [if_pos hblank]
  have hpass := ht literal (before ++ openMark ++ inner ++ closeMark ++ s)
  rw [hstep] at hpass
  simpa only [List.append_assoc] using hpass

theorem lexFrom_of_firstSpan? {s : Text} (h : firstSpan? s = none) (literal : Text) :
    lexFrom literal s = ofLiteral (literal ++ s) := by
  rw [lexFrom]
  split
  · rfl
  · next hsome =>
    rw [h] at hsome
    cases hsome

/-- Transparent text with nothing closed after it spells what is made of it:
one literal part, or none. -/
theorem spelled_ofLiteral {text s : Text} (ht : Transparent text) (hs : firstSpan? s = none) :
    ∃ slices : List Text, slices.flatten = text ++ s ∧
      List.Forall₂ Spelled (ofLiteral (text ++ s)) slices := by
  have halone : lex (text ++ s) = ofLiteral (text ++ s) := by
    rw [lex, ht, List.nil_append, lexFrom_of_firstSpan? hs]
  cases hw : text ++ s with
  | nil => exact ⟨[], rfl, .nil⟩
  | cons c w =>
    rw [hw] at halone
    refine ⟨[c :: w], by simp, .cons (.literal (List.cons_ne_nil c w) ?_ halone) .nil⟩
    exact quiet_of_lex halone

/-- A literal part has no literal part behind it. -/
def Parted (p q : Part) : Prop := p.expression? = none → q.expression?.isSome

theorem parted_ofLiteral_append (text expression : Text) {parts : List Part}
    (h : parts.IsChain Parted) :
    (ofLiteral text ++ .binding expression :: parts).IsChain Parted := by
  have htail : (Part.binding expression :: parts).IsChain Parted := by
    cases parts with
    | nil => exact .singleton _
    | cons p ps => exact .cons_cons (fun hnone => by cases hnone) h
  cases text with
  | nil => exact htail
  | cons c w => exact .cons_cons (fun _ => rfl) htail

/-- What lexing makes of a value after transparent text spells both. -/
theorem lexFrom_spelled {literal : Text} (s : Text) (hl : Transparent literal) :
    (∃ slices : List Text, slices.flatten = literal ++ s ∧
      List.Forall₂ Spelled (lexFrom literal s) slices) ∧
    (lexFrom literal s).IsChain Parted := by
  fun_induction lexFrom literal s with
  | case1 literal s hnone =>
    refine ⟨spelled_ofLiteral hl hnone, ?_⟩
    cases literal ++ s with
    | nil => exact .nil
    | cons c w => exact .singleton _
  | case2 literal s before inner rest hfound hblank ih =>
    obtain ⟨hopen, hclose⟩ := first_of_firstSpan? hfound
    obtain ⟨⟨slices, hflat, hall⟩, hchain⟩ := ih (transparent_append hl hopen hclose hblank)
    refine ⟨⟨slices, ?_, hall⟩, hchain⟩
    rw [hflat, append_of_firstSpan? hfound]
    simp only [List.append_assoc]
  | case3 literal s before inner rest hfound hblank ih =>
    obtain ⟨hopen, hclose⟩ := first_of_firstSpan? hfound
    obtain ⟨⟨slices, hflat, hall⟩, hchain⟩ := ih transparent_nil
    have hbefore : firstSpan? before = none := by
      have hnone : Text.cut? openMark before = none :=
        (Text.cut?_eq_none_iff openMark_ne_nil).mpr
          fun hin => hopen (hin.trans (List.prefix_append _ _).isInfix)
      rw [firstSpan?, hnone]
    obtain ⟨slicesBefore, hflatBefore, hallBefore⟩ := spelled_ofLiteral hl hbefore
    have htrim : inner.trim ≠ [] := fun h => hblank (Text.trim_eq_nil_iff.mp h)
    refine ⟨⟨slicesBefore ++ (openMark ++ inner ++ closeMark) :: slices, ?_, ?_⟩,
      parted_ofLiteral_append _ _ hchain⟩
    · rw [List.flatten_append, List.flatten_cons, hflatBefore, hflat, append_of_firstSpan? hfound]
      simp only [List.append_assoc, List.nil_append]
    · exact List.rel_append hallBefore (.cons (.binding htrim hclose) hall)

/-- The parts of a value spell it: each stands for a stretch of it, the
stretches in order are the value, and no two literal parts are neighbours. -/
theorem lex_spelled (v : Text) :
    (∃ slices : List Text, slices.flatten = v ∧ List.Forall₂ Spelled (lex v) slices) ∧
    (lex v).IsChain Parted :=
  lexFrom_spelled v transparent_nil

end JsxTemplate.Part
