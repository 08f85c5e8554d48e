import JsxTemplate.Proofs.Strict

/-!
# Values written anew

A value can be written anew from its parts. With its expressions between double braces
again, whatever blanks stand around them, it has the same parts, and no other values have
them. With its expressions in single braces, as text is rendered, nothing is left in it to
resolve: the new braces open no span, and what was literal before stays so.
-/

namespace JsxTemplate

namespace Text

/-! ## Blanks at the ends -/

theorem trimEnd_append_blank (s : Text) {b : Text} (hb : blank b = true) :
    trimEnd (s ++ b) = trimEnd s := by
  induction s with
  | nil => exact trimEnd_eq_nil_iff.mpr hb
  | cons c s ih => rw [List.cons_append, trimEnd, ih, trimEnd]

theorem trimEnd_eq_self {s : Text} (h : s.getLast?.all (fun c => !isBlank c) = true) :
    trimEnd s = s := by
  induction s with
  | nil => rfl
  | cons c s ih =>
    cases s with
    | nil =>
      have hc : isBlank c = false := by simpa using h
      simp [trimEnd, hc]
    | cons d s =>
      rw [List.getLast?_cons_cons] at h
      rw [trimEnd, ih h]

/-- Trimming takes off the blanks around a text that begins and ends with none. -/
theorem trim_between_blanks {a e b : Text} (ha : blank a = true) (hb : blank b = true)
    (hfirst : e.head?.all (fun c => !isBlank c) = true)
    (hlast : e.getLast?.all (fun c => !isBlank c) = true) : trim (a ++ e ++ b) = e := by
  have hstart : trimStart (a ++ e ++ b) = trimStart (e ++ b) := by
    rw [trimStart, List.append_assoc, List.dropWhile_append_of_pos (blank_iff.mp ha), trimStart]
  rw [trim, hstart]
  cases e with
  | nil =>
    rw [List.nil_append, ← trim]
    exact trim_eq_nil_iff.mpr hb
  | cons c e =>
    have hc : ¬ isBlank c = true := by simpa using hfirst
    rw [trimStart, List.cons_append, List.dropWhile_cons_of_neg hc, ← List.cons_append,
      trimEnd_append_blank _ hb, trimEnd_eq_self hlast]

/-! ## Doubled characters -/

/-- A doubled character stands on one side of a seam if it is not on both sides of it. -/
theorem doubled_infix_append {c : Char} {u t : Text}
    (h : u.getLast? ≠ some c ∨ t.head? ≠ some c) (hin : [c, c] <:+: u ++ t) :
    [c, c] <:+: u ∨ [c, c] <:+: t := by
  induction u with
  | nil => exact .inr hin
  | cons d u ih =>
    rw [List.cons_append, List.infix_cons_iff] at hin
    rcases hin with ⟨rest, hrest⟩ | hin
    · obtain ⟨rfl, htail⟩ := List.cons_eq_cons.mp hrest
      cases u with
      | nil =>
        -- the two characters would be the last before the seam and the first behind it
        refine absurd ?_ (not_and_or.mpr h)
        rw [List.nil_append] at htail
        rw [← htail]
        exact ⟨rfl, rfl⟩
      | cons e u =>
        obtain ⟨rfl, -⟩ := List.cons_eq_cons.mp htail
        exact .inl ⟨[], u, rfl⟩
    · have hseam : u.getLast? ≠ some c ∨ t.head? ≠ some c := by
        cases u with
        | nil => exact .inl nofun
        | cons e u =>
          rw [List.getLast?_cons_cons] at h
          exact h
      exact (ih hseam hin).imp_left fun hu => hu.trans (List.suffix_cons d u).isInfix

theorem not_mem_of_blank {c : Char} (hc : isBlank c = false) {b : Text} (hb : blank b = true) :
    c ∉ b := by
  intro hmem
  have hblank := blank_iff.mp hb c hmem
  rw [hc] at hblank
  cases hblank

end Text

namespace Part

open Text (blank doubled_infix_append)

/-! ## Parts written between double braces -/

/-- A part in its plain form: one space on each side of an expression. -/
def shown : Part → Text
  | .literal text => text
  | .binding expression => openMark ++ ([' '] ++ expression ++ [' ']) ++ closeMark

/-- Parts in their plain form, one after the other. -/
def showParts (parts : List Part) : Text := parts.flatMap shown

/-- A text in which these parts stand in order, with any blanks around the expressions. An
expression that ends in a brace has a blank behind it. -/
inductive Spaced : List Part → Text → Prop
  | nil : Spaced [] []
  | literal {text rest : Text} {parts : List Part} (more : Spaced parts rest) :
      Spaced (.literal text :: parts) (text ++ rest)
  | binding {a expression b rest : Text} {parts : List Part} (left : blank a = true)
      (right : blank b = true) (apart : b ≠ [] ∨ expression.getLast? ≠ some '}')
      (more : Spaced parts rest) :
      Spaced (.binding expression :: parts)
        (openMark ++ (a ++ expression ++ b) ++ closeMark ++ rest)

theorem spaced_showParts (parts : List Part) : Spaced parts (showParts parts) := by
  induction parts with
  | nil => exact .nil
  | cons part parts ih =>
    cases part with
    | literal text => exact .literal ih
    | binding expression =>
      exact .binding (by decide) (by decide) (.inl (List.cons_ne_nil _ _)) ih

theorem spaced_ofLiteral_append {text t : Text} {parts : List Part} :
    Spaced (ofLiteral text ++ parts) t ↔ ∃ rest, t = text ++ rest ∧ Spaced parts rest := by
  cases text with
  | nil =>
    constructor
    · exact fun h => ⟨t, rfl, h⟩
    · rintro ⟨rest, rfl, h⟩
      exact h
  | cons c w =>
    constructor
    · intro h
      cases h with
      | literal more => exact ⟨_, rfl, more⟩
    · rintro ⟨rest, rfl, h⟩
      exact .literal h

/-- A value is written with the blanks it has: the first closing ends a span, so that a
brace at the end of an expression has a blank behind it. -/
theorem spaced_lexFrom (literal s : Text) : Spaced (lexFrom literal s) (literal ++ s) := by
  fun_induction lexFrom literal s with
  | case1 literal s hnone =>
    have hwhole := @spaced_ofLiteral_append (literal ++ s) (literal ++ s) []
    rw [List.append_nil] at hwhole
    exact hwhole.mpr ⟨[], (List.append_nil _).symm, .nil⟩
  | case2 literal s before inner rest hfound hblank ih =>
    rw [append_of_firstSpan? hfound]
    simpa only [List.append_assoc] using ih
  | case3 literal s before inner rest hfound hblank ih =>
    obtain ⟨a, b, hinner, ha, hb, -, -⟩ := Text.trim_spec inner
    have hclose := (first_of_firstSpan? hfound).2
    have hapart : b ≠ [] ∨ inner.trim.getLast? ≠ some '}' := by
      by_contra hneither
      obtain ⟨hnil, hbrace⟩ := not_or.mp hneither
      obtain ⟨e, he⟩ := List.getLast?_eq_some_iff.mp (not_not.mp hbrace)
      refine hclose ⟨a ++ e, [], ?_⟩
      rw [hinner, not_not.mp hnil, he]
      simp [closeMark]
    refine spaced_ofLiteral_append.mpr ⟨openMark ++ inner ++ closeMark ++ rest, ?_, ?_⟩
    · rw [append_of_firstSpan? hfound]
      simp only [List.append_assoc]
    · have hspaced := Spaced.binding ha hb hapart ih
      rwa [← hinner] at hspaced

/-- The blanks around an expression can be changed without closing its span early. -/
theorem not_closed_spaced {a e b : Text} (he : ¬ closeMark <:+: e) (ha : blank a = true)
    (hb : blank b = true) (hapart : b ≠ [] ∨ e.getLast? ≠ some '}') :
    ¬ closeMark <:+: a ++ e ++ b ++ ['}'] := by
  have hleft : '}' ∉ a := Text.not_mem_of_blank (by decide) ha
  have hright : '}' ∉ b := Text.not_mem_of_blank (by decide) hb
  have htail : ¬ closeMark <:+: b ++ ['}'] := by
    intro hin
    have hseam : b.getLast? ≠ some '}' := fun hlast => hright (List.mem_of_getLast? hlast)
    rcases doubled_infix_append (.inl hseam) hin with hin | hin
    · exact hright (hin.subset List.mem_cons_self)
    · exact absurd hin (by decide)
  have hseam : e.getLast? ≠ some '}' ∨ (b ++ ['}']).head? ≠ some '}' := by
    refine hapart.symm.imp_right fun hne hhead => ?_
    rw [List.head?_append_of_ne_nil b hne] at hhead
    exact hright (List.mem_of_mem_head? hhead)
  intro hin
  rw [List.append_assoc, List.append_assoc] at hin
  have hstart : a.getLast? ≠ some '}' := fun hlast => hleft (List.mem_of_getLast? hlast)
  rcases doubled_infix_append (.inl hstart) hin with hin | hin
  · exact hleft (hin.subset List.mem_cons_self)
  · rcases doubled_infix_append hseam hin with hin | hin
    · exact he hin
    · exact htail hin

/-- Lexing finds parts again however they have been spaced. Nothing fuses with a
neighbour: a literal before a span does not end in an opening brace, and lexing passes
through the blank spans in it. -/
theorem lex_of_spaced {literal s t : Text} (hl : Transparent literal)
    (h : Spaced (lexFrom literal s) t) : lex t = lexFrom literal s := by
  fun_induction lexFrom literal s generalizing t with
  | case1 literal s hnone =>
    rw [← List.append_nil (ofLiteral _), spaced_ofLiteral_append] at h
    obtain ⟨rest, rfl, hrest⟩ := h
    cases hrest
    rw [List.append_nil, lex, hl, List.nil_append, lexFrom_of_firstSpan? hnone]
  | case2 literal s before inner rest hfound hblank ih =>
    obtain ⟨hopen, hclose⟩ := first_of_firstSpan? hfound
    exact ih (transparent_append hl hopen hclose hblank) h
  | case3 literal s before inner rest hfound hblank ih =>
    obtain ⟨hopen, hclose⟩ := first_of_firstSpan? hfound
    obtain ⟨t', rfl, hspan⟩ := spaced_ofLiteral_append.mp h
    obtain ⟨a₀, b₀, hinner, -, -, hfirst, hlast⟩ := Text.trim_spec inner
    cases hspan with
    | @binding a _ b rest' _ left right apart more =>
      have hexpression : ¬ closeMark <:+: inner.trim := by
        refine fun hin => hclose (hin.trans ⟨a₀, b₀ ++ ['}'], ?_⟩)
        rw [← List.append_assoc, ← hinner]
      have hfilled : blank (a ++ inner.trim ++ b) = false := by
        have htrim : blank inner.trim = false :=
          (blank_of_words (Text.words_trim inner)).trans (Bool.eq_false_iff.mpr hblank)
        rw [Text.blank_append, Text.blank_append, htrim, Bool.and_false, Bool.false_and]
      have hspan := firstSpan?_append hopen
        (not_closed_spaced hexpression left right apart) rest'
      have hpass := hl [] (before ++ openMark ++ (a ++ inner.trim ++ b) ++ closeMark ++ rest')
      rw [List.nil_append, lexFrom_of_filled hspan hfilled,
        Text.trim_between_blanks left right hfirst hlast, ← lex, ← lex,
        ih transparent_nil more] at hpass
      rw [← hpass]
      simp only [List.append_assoc]

/-- Parts without a binding are written in one way only. -/
theorem Spaced.eq_of_no_binding {parts : List Part} {t v : Text} (h : Spaced parts t)
    (hv : Spaced parts v) (hnone : hasBinding parts = false) : t = v := by
  induction h generalizing v with
  | nil =>
    cases hv
    rfl
  | literal more ih =>
    cases hv with
    | literal more' => rw [ih more' hnone]
  | binding left right apart more ih => cases hnone

/-- The values with the same parts are those that differ in blanks around expressions. -/
theorem lex_eq_lex_iff {t v : Text} : lex t = lex v ↔ Spaced (lex v) t := by
  constructor
  · intro h
    rw [← h]
    exact spaced_lexFrom [] t
  · exact lex_of_spaced transparent_nil

end Part

namespace Binding

open JsxTemplate.Part

theorem resolveText_congr {t v : Text} (h : lex t = lex v) : resolveText t = resolveText v := by
  rw [resolveText_eq, resolveText_eq, h]

theorem resolveProp_congr {t v : Text} (h : lex t = lex v) :
    resolveProp (some t) = resolveProp (some v) := by
  cases hbinding : hasBinding (lex v) with
  | false =>
    -- without a binding the two values are the same
    rw [(lex_eq_lex_iff.mp h).eq_of_no_binding (spaced_lexFrom [] v) hbinding, List.nil_append]
  | true =>
    have hne : ∀ {u : Text}, lex u = lex v → u ≠ [] := by
      rintro u hu rfl
      rw [← hu, hasBinding_lex_nil] at hbinding
      cases hbinding
    simp only [resolveProp, givenOrTrue_of_ne_nil (hne h), givenOrTrue_of_ne_nil (hne rfl), h,
      hbinding, ↓reduceIte]

end Binding

namespace Part

open Binding
open Text (blank doubled_infix_append)

theorem strict_iff {v : Text} : Strict v ↔ ∃ e, lex v = [.binding e] :=
  ⟨fun h => ⟨_, lex_eq_binding_iff.mpr ⟨h, rfl⟩⟩, fun ⟨_, h⟩ => (lex_eq_binding_iff.mp h).1⟩

/-- Lexing undoes writing a value from its parts, in the plain form or with any other
blanks around the expressions, and values with the same parts differ in nothing else. One
can stand for the other in a text, as a prop, in a spread, and wherever a single binding
is unwrapped. -/
theorem lex_show (v : Text) :
    lex (showParts (lex v)) = lex v ∧
    (∀ t, lex t = lex v ↔ Spaced (lex v) t) ∧
    (∀ t, lex t = lex v ↔ showParts (lex t) = showParts (lex v)) ∧
    ∀ t, lex t = lex v →
      resolveText t = resolveText v ∧ resolveProp (some t) = resolveProp (some v) ∧
      resolveSpread? (some t) = resolveSpread? (some v) ∧ (Strict t ↔ Strict v) ∧
      (Strict v → unwrap t = unwrap v) := by
  have hshow : ∀ u, lex (showParts (lex u)) = lex u := fun u =>
    lex_eq_lex_iff.mpr (spaced_showParts _)
  refine ⟨hshow v, fun t => lex_eq_lex_iff, fun t => ⟨congrArg showParts, fun h => ?_⟩,
    fun t h => ⟨resolveText_congr h, resolveProp_congr h, ?_, ?_, fun hstrict => ?_⟩⟩
  · rw [← hshow t, h, hshow v]
  · rw [resolveSpread?, resolveSpread?, Option.getD_some, Option.getD_some, h]
  · rw [strict_iff, strict_iff, h]
  · rw [unwrap, unwrap, h, single?_lex, if_pos hstrict, Option.getD_some, Option.getD_some]

example : lex ("{{ }} a {{ b }}" ++ openMark) =
    [.literal "{{ }} a ", .binding "b", .literal openMark] := by
  decide +kernel

/-! ## Openings in literal text -/

/-- What follows the first opening of a text, with it. -/
def opening (s : Text) : List Text :=
  match Text.cut? openMark s with
  | none => []
  | some (_, rest) => [openMark ++ rest]

/-- The openings that lexing leaves in literal text: the blank spans in order, and an opening
that is not closed, with all that follows it. -/
def looseMarks (s : Text) : List Text :=
  match _found : firstSpan? s with
  | none => opening s
  | some (_, inner, rest) =>
    if blank inner then (openMark ++ inner ++ closeMark) :: looseMarks rest else looseMarks rest
termination_by s.length
decreasing_by
  all_goals
    have := congrArg List.length (append_of_firstSpan? _found)
    simp only [List.length_append, openMark, closeMark, List.length_cons, List.length_nil] at this
    omega

section

variable {s before inner rest : Text}

theorem looseMarks_of_none (h : firstSpan? s = none) : looseMarks s = opening s := by
  rw [looseMarks]
  split
  · rfl
  · next hsome =>
    rw [h] at hsome
    cases hsome

theorem looseMarks_of_span (h : firstSpan? s = some (before, inner, rest)) :
    looseMarks s =
      if blank inner then (openMark ++ inner ++ closeMark) :: looseMarks rest
      else looseMarks rest := by
  rw [looseMarks]
  split
  · next hnone =>
    rw [h] at hnone
    cases hnone
  · next hsome =>
    rw [h] at hsome
    cases hsome
    rfl

end

/-! ## Text that opens nothing -/

section

variable {u : Text} (hu : ¬ openMark <:+: u ++ ['{'])

include hu in
/-- The first opening is looked for behind a text that opens nothing, not even together
with a brace that follows it. -/
theorem cut?_open_append (t : Text) :
    Text.cut? openMark (u ++ t) = (Text.cut? openMark t).map (Prod.map (u ++ ·) id) := by
  induction u with
  | nil =>
    rw [List.nil_append]
    cases Text.cut? openMark t with
    | none => rfl
    | some found => rfl
  | cons c u ih =>
    rw [List.cons_append, List.infix_cons_iff, not_or] at hu
    have hother : ¬ openMark <+: c :: (u ++ t) := by
      rintro ⟨rest, hrest⟩
      obtain ⟨rfl, htail⟩ := List.cons_eq_cons.mp hrest
      refine hu.1 ?_
      cases u with
      | nil => exact ⟨[], rfl⟩
      | cons d u =>
        obtain ⟨rfl, -⟩ := List.cons_eq_cons.mp htail
        exact ⟨u ++ ['{'], rfl⟩
    rw [List.cons_append, Text.cut?_cons_of_other hother, ih hu.2, Option.map_map]
    rfl

include hu in
theorem firstSpan?_open_append (t : Text) :
    firstSpan? (u ++ t) =
      (firstSpan? t).map fun (before, inner, rest) => (u ++ before, inner, rest) := by
  unfold firstSpan?
  rw [cut?_open_append hu]
  cases Text.cut? openMark t with
  | none => rfl
  | some found =>
    obtain ⟨before, inside⟩ := found
    simp only [Option.map_some, Prod.map, id_eq]
    cases Text.cut? closeMark inside with
    | none => rfl
    | some found => rfl

include hu in
theorem transparent_of_no_open : Transparent u := by
  intro literal t
  have hspan := firstSpan?_open_append hu t
  cases ht : firstSpan? t with
  | none =>
    rw [ht] at hspan
    rw [lexFrom_of_firstSpan? hspan, lexFrom_of_firstSpan? ht, List.append_assoc]
  | some found =>
    obtain ⟨before, inner, rest⟩ := found
    rw [ht] at hspan
    cases hblank : blank inner with
    | true =>
      rw [lexFrom_of_blank hspan hblank, lexFrom_of_blank ht hblank]
      simp only [List.append_assoc]
    | false =>
      rw [lexFrom_of_filled hspan hblank, lexFrom_of_filled ht hblank]
      simp only [List.append_assoc]

include hu in
theorem looseMarks_open_append (t : Text) : looseMarks (u ++ t) = looseMarks t := by
  have hspan := firstSpan?_open_append hu t
  cases ht : firstSpan? t with
  | none =>
    rw [ht] at hspan
    rw [looseMarks_of_none hspan, looseMarks_of_none ht, opening, opening, cut?_open_append hu]
    cases Text.cut? openMark t with
    | none => rfl
    | some found => rfl
  | some found =>
    obtain ⟨before, inner, rest⟩ := found
    rw [ht] at hspan
    rw [looseMarks_of_span hspan, looseMarks_of_span ht]

end

/-- An expression in single braces opens nothing if it does not by itself. -/
theorem not_open_braced {before e : Text} (hbefore : ¬ openMark <:+: before ++ ['{'])
    (he : ¬ openMark <:+: e) : ¬ openMark <:+: before ++ braced e ++ ['{'] := by
  intro hin
  have hsplit : before ++ braced e ++ ['{'] =
      (before ++ ['{']) ++ ([' '] ++ (e ++ [' ', '}', '{'])) := by
    simp [braced]
  rw [hsplit] at hin
  rcases doubled_infix_append (.inr (by simp)) hin with hin | hin
  · exact hbefore hin
  · rcases doubled_infix_append (.inl (by simp)) hin with hin | hin
    · exact absurd hin (by decide)
    · rcases doubled_infix_append (.inr (by simp)) hin with hin | hin
      · exact he hin
      · exact absurd hin (by decide)

/-- The expressions of a value do not depend on the literal text before it. -/
theorem expressions_lexFrom (literal s : Text) :
    expressions (lexFrom literal s) = expressions (lex s) := by
  fun_induction looseMarks s generalizing literal with
  | case1 s hnone =>
    rw [lex, lexFrom_of_firstSpan? hnone, lexFrom_of_firstSpan? hnone, expressions_ofLiteral,
      expressions_ofLiteral]
  | case2 s before inner rest hfound hblank ih =>
    rw [lex, lexFrom_of_blank hfound hblank, lexFrom_of_blank hfound hblank, ih, ih]
  | case3 s before inner rest hfound hblank ih =>
    have hfilled := Bool.eq_false_iff.mpr hblank
    rw [lex, lexFrom_of_filled hfound hfilled, lexFrom_of_filled hfound hfilled,
      expressions_binding, expressions_binding]

end Part

namespace Binding

open JsxTemplate.Part

/-! ## Resolved text -/

theorem flatMap_textPart_ofLiteral (text : Text) : (ofLiteral text).flatMap textPart = text := by
  cases text with
  | nil => rfl
  | cons c w => exact List.append_nil _

/-- Literal text before a value stands before the resolved value. -/
theorem flatMap_textPart_lexFrom (literal s : Text) :
    (lexFrom literal s).flatMap textPart = literal ++ resolveText s := by
  fun_induction looseMarks s generalizing literal with
  | case1 s hnone =>
    rw [resolveText_eq, lex, lexFrom_of_firstSpan? hnone, lexFrom_of_firstSpan? hnone,
      flatMap_textPart_ofLiteral, flatMap_textPart_ofLiteral, List.nil_append]
  | case2 s before inner rest hfound hblank ih =>
    rw [resolveText_eq, lex, lexFrom_of_blank hfound hblank, lexFrom_of_blank hfound hblank, ih, ih]
    simp only [List.append_assoc, List.nil_append]
  | case3 s before inner rest hfound hblank ih =>
    have hfilled := Bool.eq_false_iff.mpr hblank
    rw [resolveText_eq, lex, lexFrom_of_filled hfound hfilled, lexFrom_of_filled hfound hfilled,
      List.flatMap_append, List.flatMap_append, flatMap_textPart_ofLiteral,
      flatMap_textPart_ofLiteral, List.nil_append, List.append_assoc]

section

variable {s before inner rest : Text}

theorem resolveText_of_none (h : firstSpan? s = none) : resolveText s = s := by
  rw [resolveText_eq, lex, lexFrom_of_firstSpan? h, flatMap_textPart_ofLiteral, List.nil_append]

theorem resolveText_of_blank (h : firstSpan? s = some (before, inner, rest))
    (hblank : inner.blank = true) :
    resolveText s = before ++ openMark ++ inner ++ closeMark ++ resolveText rest := by
  rw [resolveText_eq, lex, lexFrom_of_blank h hblank, flatMap_textPart_lexFrom, List.nil_append]

theorem resolveText_of_filled (h : firstSpan? s = some (before, inner, rest))
    (hfilled : inner.blank = false) :
    resolveText s = before ++ braced inner.trim ++ resolveText rest := by
  rw [resolveText_eq, lex, lexFrom_of_filled h hfilled, List.flatMap_append, List.flatMap_cons,
    flatMap_textPart_ofLiteral, flatMap_textPart_lexFrom, List.nil_append, List.nil_append,
    List.append_assoc]
  rfl

end

/-- Lexing passes through a resolved text, and finds the blank spans and the open end that
were there. -/
theorem lexFrom_resolveText {s : Text} (h : ∀ e ∈ expressions (lex s), ¬ openMark <:+: e)
    (literal : Text) :
    lexFrom literal (resolveText s) = ofLiteral (literal ++ resolveText s) ∧
      looseMarks (resolveText s) = looseMarks s := by
  fun_induction looseMarks s generalizing literal with
  | case1 s hnone =>
    rw [resolveText_of_none hnone]
    exact ⟨lexFrom_of_firstSpan? hnone literal, looseMarks_of_none hnone⟩
  | case2 s before inner rest hfound hblank ih =>
    rw [lex, lexFrom_of_blank hfound hblank, expressions_lexFrom] at h
    obtain ⟨hopen, hclose⟩ := first_of_firstSpan? hfound
    have hspan := firstSpan?_append hopen hclose (resolveText rest)
    rw [resolveText_of_blank hfound hblank, lexFrom_of_blank hspan hblank,
      looseMarks_of_span hspan, if_pos hblank, (ih h _).1, (ih h []).2]
    simp only [List.append_assoc, and_self]
  | case3 s before inner rest hfound hblank ih =>
    have hfilled := Bool.eq_false_iff.mpr hblank
    rw [lex, lexFrom_of_filled hfound hfilled, expressions_binding, List.forall_mem_cons] at h
    have hopen := not_open_braced (first_of_firstSpan? hfound).1 h.1
    rw [resolveText_of_filled hfound hfilled, transparent_of_no_open hopen,
      looseMarks_open_append hopen, (ih h.2 _).1, (ih h.2 []).2]
    simp only [List.append_assoc, and_self]

/-- Nothing is left to resolve in a resolved text, as long as no expression opens a span of
its own: all of it is literal, resolving it again changes nothing, and the blank spans and
the open end of the value are the ones that lexing passes over in it. -/
theorem resolveText_settled {v : Text} (h : ∀ e ∈ expressions (lex v), ¬ openMark <:+: e) :
    lex (resolveText v) = ofLiteral (resolveText v) ∧
    hasBinding (lex (resolveText v)) = false ∧
    resolveText (resolveText v) = resolveText v ∧
    looseMarks (resolveText v) = looseMarks v := by
  obtain ⟨hlex, hmarks⟩ := lexFrom_resolveText h []
  rw [List.nil_append, ← lex] at hlex
  refine ⟨hlex, ?_, ?_, hmarks⟩
  · rw [hlex]
    cases resolveText v with
    | nil => rfl
    | cons c w => rfl
  · rw [resolveText_eq (resolveText v), hlex, flatMap_textPart_ofLiteral]

/-- Braces on all sides of two bindings, a blank span before and an open end behind them. -/
def crowded : Text :=
  closeMark ++ "{{ }}{{x}}" ++ ['}'] ++ openMark ++ ['{', 'y', ' '] ++ closeMark ++ " " ++
    openMark ++ " z"

theorem crowded_settled :
    (∀ e ∈ expressions (lex crowded), ¬ openMark <:+: e) ∧
    expressions (lex crowded) = [("x" : Text), ['{', 'y']] ∧
    resolveText crowded =
      closeMark ++ "{{ }}{ x }" ++ ['}'] ++ ['{', ' ', '{', 'y', ' ', '}'] ++ " " ++
        openMark ++ " z" ∧
    hasBinding (lex (resolveText crowded)) = false ∧
    looseMarks (resolveText crowded) = [("{{ }}" : Text), openMark ++ " z"] := by
  have hexpressions : expressions (lex crowded) = [("x" : Text), ['{', 'y']] := by decide +kernel
  have hmarks : looseMarks crowded = [("{{ }}" : Text), openMark ++ " z"] := by decide +kernel
  have hplain : ∀ e ∈ expressions (lex crowded), ¬ openMark <:+: e := by
    rw [hexpressions]
    decide
  obtain ⟨-, hnone, -, hsame⟩ := resolveText_settled hplain
  exact ⟨hplain, hexpressions, by decide +kernel, hnone, hsame.trans hmarks⟩

end Binding

end JsxTemplate
