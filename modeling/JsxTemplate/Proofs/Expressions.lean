import JsxTemplate.Proofs.Paragraphs
import JsxTemplate.Jsx.Render

/-!
# The expressions of a paragraph's text

Braces are no blanks, so the spans of a text are found by its words alone: texts
with the same words have the same expressions but for the blanks in them. A tree
holds texts with their blanks collapsed. Their expressions are the written ones
collapsed, and a string literal with two blanks in a row does not survive.
-/

namespace JsxTemplate.Part

open Text (words collapse blank Collapsed)

/-! ## Lexing and words -/

theorem openMark_not_blank : ∀ c ∈ openMark, Text.isBlank c = false := by
  have hall : openMark.all (fun c => !Text.isBlank c) = true := by decide
  simpa using hall

theorem closeMark_not_blank : ∀ c ∈ closeMark, Text.isBlank c = false := by
  have hall : closeMark.all (fun c => !Text.isBlank c) = true := by decide
  simpa using hall

/-- Texts with the same words have the same first span, but for blanks. -/
theorem firstSpan?_of_words {s t before inner rest : Text} (h : words s = words t)
    (hs : firstSpan? s = some (before, inner, rest)) :
    ∃ before' inner' rest', firstSpan? t = some (before', inner', rest') ∧
      words inner = words inner' ∧ words rest = words rest' := by
  unfold firstSpan? at hs
  split at hs
  · cases hs
  · next inside hopen =>
    split at hs
    · cases hs
    · next hclose =>
      cases hs
      obtain ⟨before', inside', hopen', -, hinside⟩ :=
        Text.words_of_cut? openMark_ne_nil openMark_not_blank h hopen
      obtain ⟨inner', rest', hclose', hinner, hrest⟩ :=
        Text.words_of_cut? closeMark_ne_nil closeMark_not_blank hinside.symm hclose
      refine ⟨before', inner', rest', ?_, hinner.symm, hrest.symm⟩
      simp only [firstSpan?, hopen', hclose']

theorem firstSpan?_eq_none_of_words {s t : Text} (h : words s = words t)
    (hs : firstSpan? s = none) : firstSpan? t = none := by
  cases ht : firstSpan? t with
  | none => rfl
  | some found =>
    obtain ⟨_, _, _, hfound, -⟩ := firstSpan?_of_words h.symm ht
    rw [hs] at hfound
    cases hfound

theorem blank_of_words {s t : Text} (h : words s = words t) : blank s = blank t := by
  rw [Bool.eq_iff_iff, ← Text.words_eq_nil_iff, ← Text.words_eq_nil_iff, h]

section

variable {s before inner rest : Text} (h : firstSpan? s = some (before, inner, rest))

include h in
theorem lexFrom_of_blank (hblank : blank inner = true) (literal : Text) :
    lexFrom literal s = lexFrom (literal ++ before ++ openMark ++ inner ++ closeMark) rest := by
  rw [lexFrom]
  split
  · next hnone =>
    rw [h] at hnone
    cases hnone
  · next hsome =>
    rw [h] at hsome
    cases hsome
    rw [if_pos hblank]

include h in
theorem lexFrom_of_filled (hfilled : blank inner = false) (literal : Text) :
    lexFrom literal s = ofLiteral (literal ++ before) ++ .binding inner.trim :: lexFrom [] rest := by
  rw [lexFrom]
  split
  · next hnone =>
    rw [h] at hnone
    cases hnone
  · next hsome =>
    rw [h] at hsome
    cases hsome
    rw [if_neg (by simp [hfilled])]

end

@[simp] theorem expressions_ofLiteral (text : Text) : expressions (ofLiteral text) = [] := by
  cases text <;> rfl

theorem expressions_binding (text expression : Text) (parts : List Part) :
    expressions (ofLiteral text ++ .binding expression :: parts) =
      expression :: expressions parts := by
  rw [expressions, List.filterMap_append, ← expressions, expressions_ofLiteral]
  rfl

/-- Texts with the same words have the same expressions, but for blanks. -/
theorem map_collapse_expressions {s t : Text} (h : words s = words t) (literal literal' : Text) :
    (expressions (lexFrom literal s)).map collapse =
      (expressions (lexFrom literal' t)).map collapse := by
  fun_induction lexFrom literal s generalizing t literal' with
  | case1 literal s hnone =>
    rw [lexFrom_of_firstSpan? (firstSpan?_eq_none_of_words h hnone), expressions_ofLiteral,
      expressions_ofLiteral]
  | case2 literal s before inner rest hfound hblank ih =>
    obtain ⟨before', inner', rest', hfound', hinner, hrest⟩ := firstSpan?_of_words h hfound
    rw [lexFrom_of_blank hfound' (blank_of_words hinner ▸ hblank)]
    exact ih hrest _
  | case3 literal s before inner rest hfound hblank ih =>
    obtain ⟨before', inner', rest', hfound', hinner, hrest⟩ := firstSpan?_of_words h hfound
    have hfilled : blank inner' = false := by
      rw [← blank_of_words hinner]
      simpa using hblank
    have htrim : collapse inner.trim = collapse inner'.trim := by
      rw [collapse, collapse, Text.words_trim, Text.words_trim, hinner]
    rw [lexFrom_of_filled hfound' hfilled, expressions_binding, expressions_binding, List.map_cons,
      List.map_cons, htrim, ih hrest []]

/-- The expressions in a collapsed text are collapsed. -/
theorem collapsed_of_mem_expressions {v : Text} (hv : Collapsed v) {s : Text} (hs : s <:+: v)
    (literal : Text) : ∀ e ∈ expressions (lexFrom literal s), Collapsed e := by
  fun_induction lexFrom literal s with
  | case1 literal s hnone => simp
  | case2 literal s before inner rest hfound hblank ih =>
    have hrest : rest <:+: s :=
      (append_of_firstSpan? hfound).symm ▸ (List.suffix_append _ rest).isInfix
    exact ih (hrest.trans hs)
  | case3 literal s before inner rest hfound hblank ih =>
    have hspelled := append_of_firstSpan? hfound
    have hrest : rest <:+: s := hspelled.symm ▸ (List.suffix_append _ rest).isInfix
    have hinner : inner <:+: s :=
      ⟨before ++ openMark, closeMark ++ rest, by simp only [hspelled, List.append_assoc]⟩
    obtain ⟨a, b, htrim, -, -, hfirst, hlast⟩ := Text.trim_spec inner
    rw [expressions_binding]
    intro e he
    rcases List.mem_cons.mp he with rfl | he
    · exact hv.of_isInfix (List.IsInfix.trans ⟨a, b, htrim.symm⟩ (hinner.trans hs)) hfirst hlast
    · exact ih (hrest.trans hs) e he

/-- The expressions of a collapsed text are those of the text, collapsed. -/
theorem expressions_collapse (t : Text) :
    expressions (lex t.collapse) = (expressions (lex t)).map collapse := by
  have hcollapsed := collapsed_of_mem_expressions (Text.collapsed_collapse t) List.infix_rfl []
  calc expressions (lex t.collapse)
      = (expressions (lex t.collapse)).map collapse := by
        refine (List.map_id _).symm.trans (List.map_congr_left fun e he => ?_)
        exact (Text.collapse_eq_self (hcollapsed e he)).symm
    _ = (expressions (lex t)).map collapse :=
        map_collapse_expressions (Text.words_collapse t) [] []

end JsxTemplate.Part

namespace JsxTemplate

/-! ## Expressions in a paragraph -/

/-- Literal parts spell the text that they were lexed from. -/
theorem flatMap_textPart_of_spelled {parts : List Part} {slices : List Text}
    (h : List.Forall₂ Part.Spelled parts slices) (hnone : ∀ p ∈ parts, p.expression? = none) :
    parts.flatMap Binding.textPart = slices.flatten := by
  induction h with
  | nil => rfl
  | @cons p slice parts slices hp more ih =>
    rw [List.flatMap_cons, List.flatten_cons,
      ih fun q hq => hnone q (List.mem_cons_of_mem p hq)]
    cases hp with
    | literal => rfl
    | binding => cases hnone _ List.mem_cons_self

/-- A text is rendered part by part, with or without bindings. -/
theorem Binding.resolveText_eq (value : Text) :
    resolveText value = (Part.lex value).flatMap textPart := by
  rw [resolveText]
  split
  · rfl
  · next hnone =>
    obtain ⟨slices, hflat, hspelled⟩ := (Part.lexFrom_spelled value Part.transparent_nil).1
    rw [List.nil_append] at hflat
    rw [Part.lex, flatMap_textPart_of_spelled hspelled, hflat]
    intro p hp
    have hall : ∀ q ∈ Part.lex value, ¬ q.expression?.isSome := by
      simpa [Part.hasBinding] using hnone
    simpa using hall p hp

/-- What becomes of the bindings in a paragraph's text. The tree holds the text
collapsed; its rendering writes the bindings of that, whose expressions are those
of the text as written with their blanks collapsed. They are unchanged just when
no two blanks follow each other in any of them and each blank is a space. -/
theorem paragraph_expressions (file t : Text) (hbracket : '<' ∉ t) (hamp : '&' ∉ t)
    (hfilled : t.blank = false) :
    Template.parse file (paragraph t) =
      ([.parsed file 0 1], .ok ⟨paragraphTree t.collapse, [], file⟩) ∧
    (∀ indent, Jsx.textLine indent t.collapse =
      indent ++ (Part.lex t.collapse).flatMap Binding.textPart ++ "\n") ∧
    Part.expressions (Part.lex t.collapse) =
      (Part.expressions (Part.lex t)).map Text.collapse ∧
    (Part.expressions (Part.lex t.collapse) = Part.expressions (Part.lex t) ↔
      ∀ e ∈ Part.expressions (Part.lex t), Text.Collapsed e) := by
  have hparse := parse_paragraph_of_answered hbracket (mended_of_no_ampersand hamp) (.inl rfl)
    hfilled file
  have hexpressions := Part.expressions_collapse t
  refine ⟨hparse, fun indent => ?_, hexpressions, ?_⟩
  · rw [Jsx.textLine, Binding.resolveText_eq]
  · rw [hexpressions]
    constructor
    · intro hsame e he
      have hall := List.map_eq_map_iff.mp (hsame.trans (List.map_id _).symm) e he
      exact Text.collapse_eq_self_iff.mp hall
    · intro hall
      refine (List.map_congr_left fun e he => ?_).trans (List.map_id _)
      exact Text.collapse_eq_self (hall e he)

/-- A text with two bindings, one of them on several lines. -/
def greeting : Text := "Hi " ++ Part.openMark ++ " user\n  .name " ++ Part.closeMark ++ ", {{n}}!"

theorem greeting_expressions :
    '<' ∉ greeting ∧ '&' ∉ greeting ∧ greeting.blank = false ∧
      Template.parse "hi.html" (paragraph greeting) =
        ([.parsed "hi.html" 0 1], .ok ⟨paragraphTree greeting.collapse, [], "hi.html"⟩) ∧
      Part.expressions (Part.lex greeting) = ["user\n  .name", "n"] ∧
      Part.expressions (Part.lex greeting.collapse) = ["user .name", "n"] := by
  have hbracket : '<' ∉ greeting := by decide
  have hamp : '&' ∉ greeting := by decide
  have hfilled : greeting.blank = false := by decide
  have hwritten : Part.expressions (Part.lex greeting) = ["user\n  .name", "n"] := by
    decide +kernel
  obtain ⟨hparse, -, hexpressions, -⟩ :=
    paragraph_expressions "hi.html" greeting hbracket hamp hfilled
  refine ⟨hbracket, hamp, hfilled, hparse, hwritten, ?_⟩
  rw [hexpressions, hwritten]
  decide

/-- A string literal with two blanks in it, in a span. -/
def wideLiteral : Text := Part.openMark ++ " 'a  b' " ++ Part.closeMark

def narrowLiteral : Text := Part.openMark ++ " 'a b' " ++ Part.closeMark

/-- The blanks inside a string literal are not kept. -/
theorem literal_expression_changed :
    '<' ∉ wideLiteral ∧ '&' ∉ wideLiteral ∧
    Template.parse "literal.html" (paragraph wideLiteral) =
      ([.parsed "literal.html" 0 1],
        .ok ⟨paragraphTree narrowLiteral, [], "literal.html"⟩) ∧
    Part.expressions (Part.lex wideLiteral) = ["'a  b'"] ∧
    Part.expressions (Part.lex narrowLiteral) = ["'a b'"] := by
  have hcollapse : Text.collapse wideLiteral = narrowLiteral := by
    decide
  have hparse := parse_paragraph_of_answered (t := wideLiteral) (by decide)
    (mended_of_no_ampersand (by decide)) (.inl rfl) (by decide) "literal.html"
  rw [hcollapse] at hparse
  exact ⟨by decide, by decide, hparse, by decide +kernel, by decide +kernel⟩

end JsxTemplate
