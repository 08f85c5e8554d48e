import JsxTemplate.Proofs.Strict

/-!
# Quoted text is read back

Literal text goes into template strings and string literals with backslashes before the
characters that would end it. A reader that takes a backslash and the next character for
that character finds the text again and stops where the writer did, whatever follows.
Values are written in parts: each chunk of a template string gives its part and ends where
the next one begins. A literal prop gives its value, unless both kinds of quotes and the
end of a line are in it.
-/

namespace JsxTemplate

/-! ## Replacement -/

namespace Text

/-- Every occurrence of `old` replaced, from the left. -/
def replaceAll (old new s : Text) : Text :=
  match _found : cut? old s with
  | none => s
  | some (before, rest) => if old = [] then s else before ++ new ++ replaceAll old new rest
termination_by s.length
decreasing_by
  have := congrArg List.length (eq_append_of_cut? _found)
  have := List.length_pos_iff.mpr ‹¬ old = []›
  simp only [List.length_append] at *
  omega

section

variable {old : Text} (hold : old ≠ []) (new : Text)

theorem replaceAll_of_none {s : Text} (h : cut? old s = none) : replaceAll old new s = s := by
  rw [replaceAll]
  split
  · rfl
  · next hfound =>
    rw [h] at hfound
    cases hfound

include hold

theorem replaceAll_of_some {s before rest : Text} (h : cut? old s = some (before, rest)) :
    replaceAll old new s = before ++ new ++ replaceAll old new rest := by
  rw [replaceAll]
  split
  · next hfound =>
    rw [h] at hfound
    cases hfound
  · next hfound =>
    rw [h] at hfound
    cases hfound
    rw [if_neg hold]

theorem replaceAll_nil : replaceAll old new [] = [] :=
  replaceAll_of_none new ((cut?_eq_none_iff hold).mpr (by simpa using hold))

theorem replaceAll_append (rest : Text) :
    replaceAll old new (old ++ rest) = new ++ replaceAll old new rest := by
  rw [replaceAll_of_some hold new (cut?_self_append hold), List.nil_append]

theorem replaceAll_cons {c : Char} {s : Text} (h : ¬ old <+: c :: s) :
    replaceAll old new (c :: s) = c :: replaceAll old new s := by
  have hcut := cut?_cons_of_other h
  cases hs : cut? old s with
  | none =>
    rw [hs] at hcut
    rw [replaceAll_of_none new hcut, replaceAll_of_none new hs]
  | some found =>
    rw [hs] at hcut
    rw [replaceAll_of_some hold new hcut, replaceAll_of_some hold new hs]
    rfl

end

/-- Replacing a character is done character by character. -/
theorem replaceAll_char (c : Char) (new s : Text) :
    replaceAll [c] new s = s.flatMap fun d => if d = c then new else [d] := by
  have hc : [c] ≠ [] := List.cons_ne_nil c []
  induction s with
  | nil => exact replaceAll_nil hc new
  | cons d s ih =>
    rw [List.flatMap_cons, ← ih]
    split
    · next hd =>
      subst hd
      exact replaceAll_append hc new s
    · next hd =>
      refine replaceAll_cons hc new fun hpre => hd ?_
      exact (List.cons_prefix_cons.mp hpre).1.symm

/-- A backslash before each backslash and each `c`. -/
def guarded (c : Char) (s : Text) : Text :=
  s.flatMap fun d => if d = '\\' ∨ d = c then ['\\', d] else [d]

theorem guarded_cons_of_mark {c d : Char} (h : d = '\\' ∨ d = c) (s : Text) :
    guarded c (d :: s) = '\\' :: d :: guarded c s := by
  rw [guarded, List.flatMap_cons, if_pos h]
  rfl

theorem guarded_cons_of_other {c d : Char} (h : ¬ (d = '\\' ∨ d = c)) (s : Text) :
    guarded c (d :: s) = d :: guarded c s := by
  rw [guarded, List.flatMap_cons, if_neg h]
  rfl

/-- A brace that a guarded text begins with is the text's own. -/
theorem brace_of_guarded {c : Char} {s t : Text} (h : guarded c s = '{' :: t) :
    ∃ u, s = '{' :: u := by
  cases s with
  | nil => cases h
  | cons d s =>
    by_cases hd : d = '\\' ∨ d = c
    · rw [guarded_cons_of_mark hd] at h
      cases h
    · rw [guarded_cons_of_other hd] at h
      exact ⟨s, congrArg (· :: s) (List.cons.inj h).1⟩

/-- Guarding is two replacements, the one of backslashes first. -/
theorem guarded_eq_replaceAll {c : Char} (hc : c ≠ '\\') (s : Text) :
    guarded c s = replaceAll [c] ['\\', c] (replaceAll ['\\'] ['\\', '\\'] s) := by
  rw [replaceAll_char, replaceAll_char, List.flatMap_assoc, guarded]
  refine List.flatMap_congr fun d _ => ?_
  by_cases hd : d = '\\'
  · simp [hd, hc.symm]
  · by_cases hdc : d = c
    · subst hdc
      simp [hc]
    · simp [hd, hdc]

end Text

namespace Binding

open Text (replaceAll guarded)

theorem escapeString_eq_guarded (s : Text) : escapeString s = guarded '\'' s := rfl

/-- Escaping for a string is two replacements. -/
theorem escapeString_eq_replaceAll (s : Text) :
    escapeString s = replaceAll "'" "\\'" (replaceAll "\\" "\\\\" s) := by
  rw [escapeString_eq_guarded]
  exact Text.guarded_eq_replaceAll (by decide) s

/-- Escaping for a template string is three replacements, of backslashes first and of
dollar signs before a brace last. -/
theorem escapeTemplate_eq_replaceAll (s : Text) :
    escapeTemplate s =
      replaceAll ['$', '{'] ['\\', '$', '{']
        (replaceAll "`" "\\`" (replaceAll "\\" "\\\\" s)) := by
  have hold : ['$', '{'] ≠ [] := List.cons_ne_nil _ _
  refine Eq.trans ?_ (congrArg _ (Text.guarded_eq_replaceAll (by decide : '`' ≠ '\\') s))
  fun_induction escapeTemplate s with
  | case1 => exact (Text.replaceAll_nil hold _).symm
  | case2 s ih =>
    rw [Text.guarded_cons_of_other (by decide), Text.guarded_cons_of_other (by decide), ih]
    exact (Text.replaceAll_append hold ['\\', '$', '{'] (guarded '`' s)).symm
  | case3 c s hother hc ih =>
    have hmark : c ≠ '$' := by rcases hc with rfl | rfl <;> decide
    rw [Text.guarded_cons_of_mark hc, Text.replaceAll_cons hold _ (by simp),
      Text.replaceAll_cons hold _ (by simp [hmark.symm]), ih]
  | case4 c s hother hc ih =>
    have hmark : ¬ ['$', '{'] <+: c :: guarded '`' s := by
      rw [List.cons_prefix_cons]
      rintro ⟨rfl, t, hbrace⟩
      obtain ⟨u, hu⟩ := Text.brace_of_guarded hbrace.symm
      exact hother u rfl hu
    rw [Text.guarded_cons_of_other hc, Text.replaceAll_cons hold _ hmark, ih]

/-! ## Reading to a mark -/

/-- Reads up to the first place where a text stops. A backslash and the character behind it
stand for that character. Nothing is read where there is no such place. -/
def unescapeTo (stops : Text → Bool) : Text → Option (Text × Text)
  | [] => none
  | ['\\'] => none
  | '\\' :: c :: s => (unescapeTo stops s).map fun (text, rest) => (c :: text, rest)
  | c :: s =>
    if stops (c :: s) then some ([], c :: s)
    else (unescapeTo stops s).map fun (text, rest) => (c :: text, rest)

section

variable {stops : Text → Bool} {c : Char} {s text rest : Text}

theorem unescapeTo_of_stops (hc : c ≠ '\\') (h : stops (c :: s) = true) :
    unescapeTo stops (c :: s) = some ([], c :: s) := by
  rw [unescapeTo, if_pos h]
  · rintro rfl -
    exact hc rfl
  · rintro _ _ rfl -
    exact hc rfl

theorem unescapeTo_cons (hc : c ≠ '\\') (h : stops (c :: s) = false)
    (hs : unescapeTo stops s = some (text, rest)) :
    unescapeTo stops (c :: s) = some (c :: text, rest) := by
  rw [unescapeTo, h, hs]
  · rfl
  · rintro rfl -
    exact hc rfl
  · rintro _ _ rfl -
    exact hc rfl

theorem unescapeTo_escaped (c : Char) (hs : unescapeTo stops s = some (text, rest)) :
    unescapeTo stops ('\\' :: c :: s) = some (c :: text, rest) := by
  rw [unescapeTo, hs]
  rfl

end

/-! ## Template strings -/

/-- A backtick ends the text of a template string, and so does a dollar sign with a brace. -/
def templateStops : Text → Bool
  | '`' :: _ => true
  | '$' :: '{' :: _ => true
  | _ => false

theorem templateStops_iff {s : Text} :
    templateStops s = true ↔ (∃ t, s = '`' :: t) ∨ ∃ t, s = '$' :: '{' :: t := by
  unfold templateStops
  split
  · simp
  · simp
  · next htick hdollar =>
    refine iff_of_false Bool.false_ne_true ?_
    rintro (⟨t, rfl⟩ | ⟨t, rfl⟩)
    · exact htick t rfl
    · exact hdollar t rfl

/-- A brace behind an escaped text that stops is the text's own. -/
theorem brace_of_escapeTemplate {s t rest : Text} (hrest : templateStops rest = true)
    (h : escapeTemplate s ++ rest = '{' :: t) : ∃ u, s = '{' :: u := by
  unfold escapeTemplate at h
  split at h
  · rcases templateStops_iff.mp hrest with ⟨u, rfl⟩ | ⟨u, rfl⟩ <;> cases h
  · cases h
  · next c s hother =>
    split at h
    · cases h
    · exact ⟨s, congrArg (· :: s) (List.cons.inj h).1⟩

/-- Escaped text in a template string is read back up to where it stops. -/
theorem unescapeTo_escapeTemplate (text : Text) {rest : Text} (h : templateStops rest = true) :
    unescapeTo templateStops (escapeTemplate text ++ rest) = some (text, rest) := by
  fun_induction escapeTemplate text with
  | case1 =>
    rcases templateStops_iff.mp h with ⟨t, rfl⟩ | ⟨t, rfl⟩
    · exact unescapeTo_of_stops (by decide) h
    · exact unescapeTo_of_stops (by decide) h
  | case2 s ih =>
    exact unescapeTo_escaped '$' (unescapeTo_cons (by decide) rfl ih)
  | case3 c s hother hc ih => exact unescapeTo_escaped c ih
  | case4 c s hother hc ih =>
    rw [not_or] at hc
    refine unescapeTo_cons hc.1 ?_ ih
    -- a dollar sign does not stop the reader, since no brace comes to stand behind it
    refine Bool.eq_false_iff.mpr fun hstops => ?_
    rcases templateStops_iff.mp hstops with ⟨t, ht⟩ | ⟨t, ht⟩
    · exact hc.2 (List.cons.inj ht).1
    · obtain ⟨u, hu⟩ := brace_of_escapeTemplate h (List.cons.inj ht).2
      exact hother u (List.cons.inj ht).1 hu

/-- A chunk of a template string with `next` behind it gives a part: text is read back and
ends where `next` begins, and an expression stands in its own braces. -/
def Conveys (next : Text) : Part → Text → Prop
  | .literal text, chunk => unescapeTo templateStops (chunk ++ next) = some (text, next)
  | .binding e, chunk => chunk = ['$', '{', ' '] ++ e ++ [' ', '}']

/-- Chunks with `after` behind the last one give parts, each its own. -/
inductive Chunks (after : Text) : List Part → List Text → Prop
  | nil : Chunks after [] []
  | cons {part : Part} {chunk : Text} {parts : List Part} {chunks : List Text}
      (here : Conveys (chunks.flatten ++ after) part chunk) (more : Chunks after parts chunks) :
      Chunks after (part :: parts) (chunk :: chunks)

/-- What stands behind a literal part stops the reader: it is a binding or the end. -/
theorem templateStops_of_parted {text : Text} {parts : List Part}
    (h : (Part.literal text :: parts).IsChain Part.Parted) (after : Text) :
    templateStops ((parts.map templatePart).flatten ++ '`' :: after) = true := by
  cases h with
  | singleton => rfl
  | @cons_cons _ next _ hparted _ =>
    cases next with
    | literal other => cases hparted rfl
    | binding e => rfl

theorem chunks_of_parted {parts : List Part} (h : parts.IsChain Part.Parted) (after : Text) :
    Chunks ('`' :: after) parts (parts.map templatePart) := by
  induction parts with
  | nil => exact .nil
  | cons part parts ih =>
    refine .cons ?_ (ih h.tail)
    cases part with
    | literal text => exact unescapeTo_escapeTemplate text (templateStops_of_parted h after)
    | binding e => rfl

/-- Text in template strings is escaped by three replacements in a row, and is read back up
to the backtick or the dollar sign with a brace behind it, whatever else follows. So a value
with bindings that is not strict is written as one chunk for each of its parts, and each
chunk gives its part. -/
theorem template_string_chunks :
    (∀ text, escapeTemplate text =
      replaceAll ['$', '{'] ['\\', '$', '{']
        (replaceAll "`" "\\`" (replaceAll "\\" "\\\\" text))) ∧
    (∀ text rest, templateStops rest = true →
      unescapeTo templateStops (escapeTemplate text ++ rest) = some (text, rest)) ∧
    ∀ v, Part.hasBinding (Part.lex v) = true → Part.single? (Part.lex v) = none →
      ∃ chunks, resolveProp (some v) = ['{', ' ', '`'] ++ chunks.flatten ++ ['`', ' ', '}'] ∧
        Chunks ['`', ' ', '}'] (Part.lex v) chunks := by
  refine ⟨escapeTemplate_eq_replaceAll, fun text rest => unescapeTo_escapeTemplate text, ?_⟩
  intro v hbinding hsingle
  have hstrict : ¬ Part.Strict v := by
    intro h
    rw [Part.single?_lex, if_pos h] at hsingle
    cases hsingle
  have hparted := (Part.lexFrom_spelled v Part.transparent_nil).2
  refine ⟨(Part.lex v).map templatePart, ?_, chunks_of_parted hparted _⟩
  rw [resolveProp_of_hasBinding hstrict hbinding, List.flatMap_def]
  simp [braced]

/-- A label with all that has a meaning in template strings. -/
def priceLabel : Text := "cost `x` ${price} \\d ${{ n }}"

theorem priceLabel_chunks :
    templateStops ['$', '{'] = true ∧
    unescapeTo templateStops (escapeTemplate priceLabel ++ ['$', '{']) =
      some (priceLabel, ['$', '{']) ∧
    Part.hasBinding (Part.lex priceLabel) = true ∧ Part.single? (Part.lex priceLabel) = none ∧
    ∃ chunks, resolveProp (some priceLabel) =
        ['{', ' ', '`'] ++ chunks.flatten ++ ['`', ' ', '}'] ∧
      Chunks ['`', ' ', '}'] (Part.lex priceLabel) chunks := by
  obtain ⟨-, hread, hchunks⟩ := template_string_chunks
  have hbinding : Part.hasBinding (Part.lex priceLabel) = true := by decide +kernel
  have hsingle : Part.single? (Part.lex priceLabel) = none := by decide +kernel
  exact ⟨rfl, hread priceLabel ['$', '{'] rfl, hbinding, hsingle,
    hchunks priceLabel hbinding hsingle⟩

/-! ## Literal props -/

/-- A single quote ends a string. -/
def quoteStops (s : Text) : Bool := s.head? == some '\''

/-- An escaped string is read back up to its closing quote. -/
theorem unescapeTo_escapeString (s rest : Text) :
    unescapeTo quoteStops (escapeString s ++ '\'' :: rest) = some (s, '\'' :: rest) := by
  rw [escapeString_eq_guarded]
  induction s with
  | nil => exact unescapeTo_of_stops (by decide) rfl
  | cons c s ih =>
    by_cases hc : c = '\\' ∨ c = '\''
    · rw [Text.guarded_cons_of_mark hc]
      exact unescapeTo_escaped c ih
    · rw [Text.guarded_cons_of_other hc]
      rw [not_or] at hc
      refine unescapeTo_cons hc.1 ?_ ih
      simpa [quoteStops] using hc.2

/-- What stands before a quote that is the last character and the only one of its kind. -/
def upToLast (quote : Char) (s : Text) : Option Text :=
  match Text.cut? [quote] s with
  | some (text, []) => some text
  | _ => none

theorem upToLast_append {quote : Char} {s : Text} (h : quote ∉ s) :
    upToLast quote (s ++ [quote]) = some s := by
  rw [upToLast, Text.cut?_char h]

/-- The text that a literal prop holds, whatever lines it has: between quotes as it is, or
in an expression that is a string. -/
def unquote : Text → Option Text
  | '\'' :: s => upToLast '\'' s
  | '"' :: s => upToLast '"' s
  | '{' :: ' ' :: '\'' :: s =>
    match unescapeTo quoteStops s with
    | some (text, ['\'', ' ', '}']) => some text
    | _ => none
  | _ => none

theorem unquote_quoteLiteral (v : Text) : unquote (quoteLiteral v) = some v := by
  unfold quoteLiteral
  split
  · next hsingle => exact upToLast_append hsingle
  · split
    · next hdouble => exact upToLast_append hdouble
    · have hwritten : braced ('\'' :: escapeString v ++ ['\'']) =
          '{' :: ' ' :: '\'' :: (escapeString v ++ ['\'', ' ', '}']) := by simp [braced]
      rw [hwritten]
      simp only [unquote, unescapeTo_escapeString v [' ', '}']]

/-- The text that a prop denotes. A string in an expression must not go over the end of a
line. -/
def readProp (s : Text) : Option Text :=
  if s.head? = some '{' ∧ ('\n' ∈ s ∨ '\r' ∈ s) then none else unquote s

theorem head?_quoteLiteral (v : Text) :
    (quoteLiteral v).head? = some '{' ↔ '\'' ∈ v ∧ '"' ∈ v := by
  unfold quoteLiteral
  split
  · next hsingle => simp [hsingle]
  · next hsingle =>
    rw [not_not] at hsingle
    split
    · next hdouble => simp [hdouble]
    · next hdouble =>
      rw [not_not] at hdouble
      simp [braced, hsingle, hdouble]

theorem mem_escapeString {c : Char} (hc : c ≠ '\\') (s : Text) :
    c ∈ escapeString s ↔ c ∈ s := by
  rw [escapeString, List.mem_flatMap]
  constructor
  · rintro ⟨d, hd, hmem⟩
    have hcd : c = d := by
      split at hmem
      · exact (List.mem_pair.mp hmem).resolve_left hc
      · exact List.mem_singleton.mp hmem
    rwa [hcd]
  · intro hmem
    refine ⟨c, hmem, ?_⟩
    split <;> simp

/-- The marks of a literal apart, it has the characters of its value. -/
theorem mem_quoteLiteral {c : Char} (hc : c ∉ ['\'', '"', '\\', ' ', '{', '}']) (v : Text) :
    c ∈ quoteLiteral v ↔ c ∈ v := by
  simp only [List.mem_cons, List.not_mem_nil, or_false, not_or] at hc
  obtain ⟨hsingle, hdouble, hslash, hspace, hopen, hclose⟩ := hc
  unfold quoteLiteral
  split
  · simp [hsingle]
  · split
    · simp [hdouble]
    · simp [braced, mem_escapeString hslash, hsingle, hspace, hopen, hclose]

/-- A quoted value is read back, unless both quotes and the end of a line are in it. -/
theorem readProp_quoteLiteral (v : Text) :
    readProp (quoteLiteral v) =
      if '\'' ∈ v ∧ '"' ∈ v ∧ ('\n' ∈ v ∨ '\r' ∈ v) then none else some v := by
  rw [readProp, unquote_quoteLiteral]
  refine if_congr ?_ rfl rfl
  rw [head?_quoteLiteral, mem_quoteLiteral (by decide), mem_quoteLiteral (by decide), and_assoc]

/-- Literal values are escaped by two replacements in a row. Each is read back from its
prop, but for those with both quotes and the end of a line, of which nothing valid is made.
No two values are written alike. -/
theorem literal_props_read_back :
    (∀ v, escapeString v = replaceAll "'" "\\'" (replaceAll "\\" "\\\\" v)) ∧
    (∀ v, v ≠ [] → Part.hasBinding (Part.lex v) = false →
      readProp (resolveProp (some v)) =
        if '\'' ∈ v ∧ '"' ∈ v ∧ ('\n' ∈ v ∨ '\r' ∈ v) then none else some v) ∧
    Function.Injective quoteLiteral := by
  refine ⟨escapeString_eq_replaceAll, fun v hv hplain => ?_, fun v w h => ?_⟩
  · rw [resolveProp_of_plain hv hplain, readProp_quoteLiteral]
  · have hread := unquote_quoteLiteral v
    rw [h, unquote_quoteLiteral w] at hread
    exact (Option.some.inj hread).symm

/-- A value with both kinds of quotes, on one line. -/
def retort : Text := "it's \"\\x\""

theorem retort_read_back :
    retort ≠ [] ∧ Part.hasBinding (Part.lex retort) = false ∧
    readProp (resolveProp (some retort)) = some retort ∧
    Part.hasBinding (Part.lex (retort ++ ['\n'])) = false ∧
    readProp (resolveProp (some (retort ++ ['\n']))) = none := by
  obtain ⟨-, hread, -⟩ := literal_props_read_back
  have hplain : Part.hasBinding (Part.lex retort) = false := by decide +kernel
  have hlong : Part.hasBinding (Part.lex (retort ++ ['\n'])) = false := by decide +kernel
  refine ⟨by decide, hplain, ?_, hlong, ?_⟩
  · rw [hread retort (by decide) hplain, if_neg (by decide)]
  · rw [hread _ (by decide) hlong, if_pos (by decide)]

end Binding

end JsxTemplate
