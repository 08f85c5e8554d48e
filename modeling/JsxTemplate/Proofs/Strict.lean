import JsxTemplate.Proofs.Expressions
import JsxTemplate.Proofs.Heads

/-!
# Values that are one binding

A value is strict when its first two characters open a span that is closed for the
first time by its last two, with something in it. The lexer finds a single binding in
these values and in no others, so that the value itself decides what becomes of it: its
expression stands alone as a prop, in a spread and in a control.
-/

namespace JsxTemplate

namespace Part

/-! ## Strict values -/

/-- What stands between the first two and the last two characters of a value. -/
def inside (v : Text) : Text := (v.drop 2).take (v.length - 4)

/-- A value that opens where it begins and is closed where it ends, but not before,
with something in between. -/
structure Strict (v : Text) : Prop where
  long : 4 ≤ v.length
  opened : openMark <+: v
  closed : closeMark <+: v.drop (v.length - 2)
  first : ∀ i < v.length - 2, 2 ≤ i → ¬ closeMark <+: v.drop i
  filled : (inside v).blank = false

instance (v : Text) : Decidable (Strict v) :=
  decidable_of_iff (4 ≤ v.length ∧ openMark <+: v ∧ closeMark <+: v.drop (v.length - 2) ∧
      (∀ i < v.length - 2, 2 ≤ i → ¬ closeMark <+: v.drop i) ∧ (inside v).blank = false)
    ⟨fun ⟨long, opened, closed, first, filled⟩ => ⟨long, opened, closed, first, filled⟩,
      fun ⟨long, opened, closed, first, filled⟩ => ⟨long, opened, closed, first, filled⟩⟩

theorem inside_span (inner : Text) : inside (openMark ++ inner ++ closeMark) = inner := by
  simp [inside, openMark, closeMark]

theorem Strict.eq_span {v : Text} (h : Strict v) : v = openMark ++ inside v ++ closeMark := by
  have hlong := h.long
  have hopen : v.take 2 = openMark := (List.prefix_iff_eq_take.mp h.opened).symm
  have hclose : v.drop (v.length - 2) = closeMark := by
    refine (h.closed.eq_of_length ?_).symm
    rw [List.length_drop, show closeMark.length = 2 from rfl]
    omega
  have hback : (v.drop 2).drop (v.length - 4) = closeMark := by
    rw [List.drop_drop, ← hclose]
    congr 1
    omega
  calc v = v.take 2 ++ v.drop 2 := (List.take_append_drop 2 v).symm
    _ = v.take 2 ++ (inside v ++ (v.drop 2).drop (v.length - 4)) :=
        congrArg (v.take 2 ++ ·) (List.take_append_drop (v.length - 4) (v.drop 2)).symm
    _ = openMark ++ inside v ++ closeMark := by rw [hopen, hback, List.append_assoc]

/-- A closing before the end of a span runs into no more than its first brace. -/
theorem close_infix_iff (inner : Text) :
    closeMark <:+: inner ++ ['}'] ↔
      ∃ i < inner.length, closeMark <+: (inner ++ closeMark).drop i := by
  induction inner with
  | nil => decide
  | cons c inner ih =>
    have hhere : closeMark <+: c :: (inner ++ ['}']) ↔ closeMark <+: c :: (inner ++ closeMark) := by
      cases inner <;> simp [closeMark, List.cons_prefix_cons]
    rw [List.cons_append, List.infix_cons_iff, ih, hhere, List.length_cons,
      Nat.exists_lt_succ_left]
    rfl

/-- A span is strict when nothing in it closes and it is not blank. -/
theorem strict_span_iff (inner : Text) :
    Strict (openMark ++ inner ++ closeMark) ↔
      ¬ closeMark <:+: inner ++ ['}'] ∧ inner.blank = false := by
  have hlen : (openMark ++ inner ++ closeMark).length = inner.length + 4 := by
    simp [openMark, closeMark]
  have hdrop : ∀ i, (openMark ++ inner ++ closeMark).drop (i + 2) = (inner ++ closeMark).drop i :=
    fun i => by simp [openMark]
  constructor
  · intro h
    refine ⟨fun hin => ?_, by rw [← inside_span inner]; exact h.filled⟩
    obtain ⟨i, hi, hclose⟩ := (close_infix_iff inner).mp hin
    rw [← hdrop] at hclose
    exact h.first (i + 2) (by omega) (by omega) hclose
  · rintro ⟨hfirst, hfilled⟩
    refine ⟨by omega, ⟨inner ++ closeMark, by rw [List.append_assoc]⟩, ?_, ?_, ?_⟩
    · have hback : (openMark ++ inner ++ closeMark).drop
          ((openMark ++ inner ++ closeMark).length - 2) = closeMark := by
        rw [hlen, show inner.length + 4 - 2 = inner.length + 2 by omega, hdrop, List.drop_left]
      exact hback.symm ▸ List.prefix_rfl
    · intro i hi hi2 hclose
      obtain ⟨j, rfl⟩ := Nat.exists_eq_add_of_le' hi2
      rw [hdrop] at hclose
      exact hfirst ((close_infix_iff inner).mpr ⟨j, by omega, hclose⟩)
    · rw [inside_span]
      exact hfilled

example : Strict ('{' :: "{{a}}") ∧ ¬ Strict ("{{a}}" ++ ['}']) ∧ ¬ Strict "{{ }}{{a}}" ∧
    ¬ Strict " {{a}}" := by
  decide

/-! ## What the lexer finds in them -/

/-- The lexer finds one binding and nothing else in strict values only. -/
theorem lex_eq_binding_iff {v e : Text} :
    lex v = [.binding e] ↔ Strict v ∧ e = (inside v).trim := by
  constructor
  · intro h
    obtain ⟨⟨slices, hflat, hall⟩, -⟩ := lexFrom_spelled v transparent_nil
    rw [← lex, h] at hall
    -- the one part stands for the whole value
    obtain ⟨slice, rest, hpart, hrest, rfl⟩ := List.forall₂_cons_left_iff.mp hall
    rw [List.forall₂_nil_left_iff.mp hrest, List.flatten_singleton, List.nil_append] at hflat
    subst hflat
    cases hpart with
    | @binding inner filled first =>
      have hfilled : inner.blank = false :=
        Bool.eq_false_iff.mpr fun hblank => filled (Text.trim_eq_nil_iff.mpr hblank)
      exact ⟨(strict_span_iff inner).mpr ⟨first, hfilled⟩, by rw [inside_span]⟩
  · rintro ⟨hstrict, rfl⟩
    have hspan := hstrict.eq_span
    rw [hspan] at hstrict
    obtain ⟨hfirst, hfilled⟩ := (strict_span_iff _).mp hstrict
    have hopen : ¬ openMark <:+: ([] : Text) ++ ['{'] := by decide
    have hfound := firstSpan?_append hopen hfirst []
    rw [List.nil_append, List.append_nil, ← hspan] at hfound
    have hend : firstSpan? [] = none := rfl
    rw [lex, lexFrom_of_filled hfound hfilled, lexFrom_of_firstSpan? hend]
    rfl

theorem hasBinding_lex_nil : hasBinding (lex []) = false := by
  rw [show lex [] = [] from lexFrom_of_firstSpan? rfl []]
  rfl

theorem Strict.hasBinding {v : Text} (h : Strict v) : hasBinding (lex v) = true := by
  rw [lex_eq_binding_iff.mpr ⟨h, rfl⟩]
  rfl

/-- Lexing gives a single binding for strict values, with their inside trimmed. -/
theorem single?_lex (v : Text) :
    single? (lex v) = if Strict v then some (inside v).trim else none := by
  split
  · next hstrict =>
    rw [lex_eq_binding_iff.mpr ⟨hstrict, rfl⟩]
    rfl
  · next hstrict =>
    exact single?_eq_none_iff.mpr fun e h => hstrict (lex_eq_binding_iff.mp h).1

end Part

/-! ## Truth values in any case -/

namespace Text

/-- The Kelvin sign alone has its small letter in Basic Latin and stands above it. -/
theorem capitalRuns_small : capitalRuns.all (fun run =>
    (run.2.1 : Int) + run.2.2.2 < 97 || 122 < (run.1 : Int) + run.2.2.2 ||
      (run.1 == 0x212A && run.2.1 == 0x212A && run.2.2.2 == -8383)) = true := by
  decide +kernel

theorem toNat_of_isLower {c : Char} (h : c.isLower = true) : 97 ≤ c.toNat ∧ c.toNat ≤ 122 := by
  have hcases := Bool.and_eq_true_iff.mp h
  exact ⟨of_decide_eq_true hcases.1, of_decide_eq_true hcases.2⟩

theorem lowerChar_ne_small {c d : Char} (hc : ¬ c.toNat < 0x80) (hd : d.isLower = true)
    (hk : d ≠ 'k') : lowerChar c ≠ d := by
  obtain ⟨hlow, hhigh⟩ := toNat_of_isLower hd
  unfold lowerChar
  rw [if_neg hc]
  split
  · next first last step shift hrun =>
    rintro rfl
    have hsmall := List.all_eq_true.mp capitalRuns_small _ (List.mem_of_find?_eq_some hrun)
    have hin := List.find?_some hrun
    simp only [Bool.or_eq_true, decide_eq_true_eq, Bool.and_eq_true, beq_iff_eq] at hsmall hin
    rcases hsmall with hapart | ⟨⟨rfl, rfl⟩, rfl⟩
    · rcases toNat_ofNat_cases (((c.toNat : Int) + shift).toNat) with hn | hn <;> omega
    · apply hk
      rw [show c.toNat = 0x212A by omega]
      rfl
  · rintro rfl
    omega

theorem lowerChar_eq_iff {c d : Char} (hd : d.isLower = true) (hk : d ≠ 'k') :
    lowerChar c = d ↔ c.toLower = d := by
  by_cases hc : c.toNat < 0x80
  · rw [lowerChar, if_pos hc]
  · refine iff_of_false (lowerChar_ne_small hc hd hk) ?_
    have hsame : c.toLower = c :=
      dif_neg fun hcapital => hc (Nat.lt_of_le_of_lt hcapital.2 (by decide))
    rintro rfl
    have hhigh := (toNat_of_isLower hd).2
    rw [hsame] at hhigh
    omega

theorem flatMap_lowerLetter_eq_iff {word : Text}
    (hword : ∀ d ∈ word, d.isLower = true ∧ d ≠ 'k') (s : Text) :
    s.flatMap lowerLetter = word ↔ s.map Char.toLower = word := by
  induction s generalizing word with
  | nil => rfl
  | cons c s ih =>
    rw [List.flatMap_cons, List.map_cons, lowerLetter]
    cases word with
    | nil => split <;> simp
    | cons d word =>
      obtain ⟨hd, hword⟩ := List.forall_mem_cons.mp hword
      split
      · next hdotted =>
        -- neither the dot above nor the dotted capital is a small letter of Basic Latin
        subst hdotted
        refine iff_of_false (fun h => ?_) (fun h => ?_)
        · obtain ⟨-, hrest⟩ := List.cons.inj h
          have hdot : '\u0307' ∈ word := hrest ▸ List.mem_cons_self
          exact absurd (hword _ hdot).1 (by decide)
        · obtain ⟨hhead, -⟩ := List.cons.inj h
          exact absurd (hhead ▸ hd.1) (by decide)
      · rw [List.singleton_append, List.cons.injEq, List.cons.injEq, ih hword,
          lowerChar_eq_iff hd.1 hd.2]

/-- A capital sigma made small is still a sigma. -/
theorem sigma_mem_lowerWords {s : Text} (h : 'Σ' ∈ s) (inWord : Bool) :
    'σ' ∈ lowerWords inWord s ∨ 'ς' ∈ lowerWords inWord s := by
  induction s generalizing inWord with
  | nil => cases h
  | cons c s ih =>
    rw [lowerWords, List.mem_append, List.mem_append]
    rcases List.mem_cons.mp h with rfl | h
    · rw [if_pos rfl]
      split
      · exact .inr (.inl List.mem_cons_self)
      · exact .inl (.inl List.mem_cons_self)
    · rcases ih h _ with hs | hs
      · exact .inl (.inr hs)
      · exact .inr (.inr hs)

/-- Only Basic Latin capitals are made the small letters of a word in Basic Latin without a k,
which the Kelvin sign is made too. -/
theorem lower_eq_iff {word : Text} (hword : ∀ d ∈ word, d.isLower = true ∧ d ≠ 'k') (s : Text) :
    lower s = word ↔ s.map Char.toLower = word := by
  unfold lower
  split
  · next hsigma =>
    refine iff_of_false (fun h => ?_) (fun h => ?_)
    · rcases sigma_mem_lowerWords hsigma false with hs | hs <;>
        exact absurd (hword _ (h ▸ hs)).1 (by decide)
    · have hs : 'Σ'.toLower ∈ word := h ▸ List.mem_map_of_mem hsigma
      exact absurd (hword _ hs).1 (by decide)
  · exact flatMap_lowerLetter_eq_iff hword s

end Text

namespace Binding

open Text (lower lower_eq_iff)

/-- An expression is made small when it is a truth value in any case, letter by letter. -/
theorem plainBoolean_eq (e : Text) :
    plainBoolean e =
      if e.map Char.toLower = "true" ∨ e.map Char.toLower = "false" then e.map Char.toLower
      else e := by
  have htrue : ∀ d ∈ ("true" : Text), d.isLower = true ∧ d ≠ 'k' := by simp
  have hfalse : ∀ d ∈ ("false" : Text), d.isLower = true ∧ d ≠ 'k' := by simp
  rw [plainBoolean]
  by_cases ht : lower e = "true"
  · have hm := (lower_eq_iff htrue e).mp ht
    rw [if_pos (.inl ht), if_pos (.inl hm), ht, hm]
  by_cases hf : lower e = "false"
  · have hm := (lower_eq_iff hfalse e).mp hf
    rw [if_pos (.inr hf), if_pos (.inr hm), hf, hm]
  · rw [if_neg (not_or.mpr ⟨ht, hf⟩), if_neg]
    rw [← lower_eq_iff htrue, ← lower_eq_iff hfalse]
    exact not_or.mpr ⟨ht, hf⟩

/-- A strict value stands for its expression where values are unwrapped. -/
theorem unwrap_eq (v : Text) :
    unwrap v = if Part.Strict v then (Part.inside v).trim else v.trim := by
  rw [unwrap, Part.single?_lex]
  split <;> rfl

/-- An empty value is the text `true`. -/
theorem resolveProp_nil : resolveProp (some []) = quoteLiteral "true" := by
  have hlex : Part.lex "true" = [.literal "true"] := Part.lexFrom_of_firstSpan? (by decide) []
  rw [resolveProp, show givenOrTrue (some []) = "true" from rfl, hlex]
  rfl

theorem givenOrTrue_of_ne_nil {v : Text} (hv : v ≠ []) : givenOrTrue (some v) = v := by
  cases v with
  | nil => exact absurd rfl hv
  | cons c s => rfl

section

variable {v : Text}

theorem resolveProp_of_strict (h : Part.Strict v) :
    resolveProp (some v) = braced (plainBoolean (Part.inside v).trim) := by
  have hv : v ≠ [] := List.ne_nil_of_length_pos (Nat.lt_of_lt_of_le (by decide) h.long)
  simp only [resolveProp, givenOrTrue_of_ne_nil hv, Part.single?_lex, if_pos h]

theorem resolveProp_of_hasBinding (hstrict : ¬ Part.Strict v)
    (h : Part.hasBinding (Part.lex v) = true) :
    resolveProp (some v) = braced ('`' :: (Part.lex v).flatMap templatePart ++ ['`']) := by
  have hv : v ≠ [] := by
    rintro rfl
    rw [Part.hasBinding_lex_nil] at h
    cases h
  simp only [resolveProp, givenOrTrue_of_ne_nil hv, Part.single?_lex, if_neg hstrict, if_pos h]

theorem resolveProp_of_plain (hv : v ≠ []) (h : Part.hasBinding (Part.lex v) = false) :
    resolveProp (some v) = quoteLiteral v := by
  have hstrict : ¬ Part.Strict v := fun hs => Bool.eq_false_iff.mp h hs.hasBinding
  simp only [resolveProp, givenOrTrue_of_ne_nil hv, Part.single?_lex, if_neg hstrict, h,
    Bool.false_eq_true, ↓reduceIte]

end

/-- The value itself says how it is resolved. Strict values are the single bindings: they
alone can be spread, and they stand for their expression in a control and as a prop, where
truth values are made small. Of the others, those with a binding become template strings
and the rest are quoted, with `true` in place of an empty value. -/
theorem resolved_by_pattern (v : Text) :
    (Part.single? (Part.lex v)).isSome = decide (Part.Strict v) ∧
    (∀ e, Part.lex v = [.binding e] ↔ Part.Strict v ∧ e = (Part.inside v).trim) ∧
    resolveSpread? (some v) =
      (if Part.Strict v then some (braced ("..." ++ (Part.inside v).trim)) else none) ∧
    unwrap v = (if Part.Strict v then (Part.inside v).trim else v.trim) ∧
    resolveProp (some v) =
      if Part.Strict v then
        let e := (Part.inside v).trim
        braced (if e.map Char.toLower = "true" ∨ e.map Char.toLower = "false" then
          e.map Char.toLower else e)
      else if Part.hasBinding (Part.lex v) then
        braced ('`' :: (Part.lex v).flatMap templatePart ++ ['`'])
      else quoteLiteral (if v = [] then "true" else v) := by
  have hsingle := Part.single?_lex v
  refine ⟨?_, fun e => Part.lex_eq_binding_iff, ?_, unwrap_eq v, ?_⟩
  · rw [hsingle]
    split
    · next hstrict => exact (decide_eq_true hstrict).symm
    · next hstrict => exact (decide_eq_false hstrict).symm
  · rw [resolveSpread?, Option.getD_some, hsingle]
    split <;> rfl
  · split
    · next hstrict => rw [resolveProp_of_strict hstrict, plainBoolean_eq]
    · next hstrict =>
      split
      · next hbinding => exact resolveProp_of_hasBinding hstrict hbinding
      · next hplain =>
        split
        · next hempty => rw [hempty, resolveProp_nil]
        · next hv => exact resolveProp_of_plain hv (Bool.eq_false_iff.mpr hplain)

end Binding

end JsxTemplate
