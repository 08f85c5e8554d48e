import JsxTemplate.Proofs.Text

/-!
# What blanks do not change

Collapsing a text keeps its words and its characters other than blanks, and
leaves it laid out with single spaces. A separator without blanks lies within one
word, so that where a text is cut around it is a matter of the text's words.
-/

namespace JsxTemplate.Text

/-! ## Collapsed texts -/

theorem words_eq_nil_iff {s : Text} : words s = [] ↔ blank s = true := by
  constructor
  · intro h
    induction s with
    | nil => rfl
    | cons c s ih =>
      cases hc : isBlank c with
      | true =>
        rw [words_cons_of_blank hc] at h
        rw [blank_cons, hc, ih h]
        rfl
      | false =>
        exfalso
        cases hs : s.head?.all isBlank with
        | true =>
          rw [words_cons_of_apart hc hs] at h
          cases h
        | false =>
          cases s with
          | nil => cases hs
          | cons d s =>
            obtain ⟨w, ws, -, hw⟩ := words_cons_of_joined s hc hs
            rw [hw] at h
            cases h
  · intro h
    have hwords := words_blank_append h []
    rwa [List.append_nil] at hwords

/-- How collapsing goes on behind a character. -/
theorem collapse_cases (c : Char) (s : Text) :
    (isBlank c = true ∧ collapse (c :: s) = collapse s) ∨
    (isBlank c = false ∧ s.head?.all isBlank = false ∧ collapse (c :: s) = c :: collapse s) ∨
    (isBlank c = false ∧ s.head?.all isBlank = true ∧
      collapse (c :: s) = c :: if blank s then [] else ' ' :: collapse s) := by
  cases hc : isBlank c with
  | true => exact .inl ⟨rfl, by rw [collapse, words_cons_of_blank hc, collapse]⟩
  | false =>
    right
    cases hs : s.head?.all isBlank with
    | true =>
      refine .inr ⟨rfl, rfl, ?_⟩
      rw [collapse, words_cons_of_apart hc hs]
      split
      · next hblank => rw [words_eq_nil_iff.mpr hblank]; rfl
      · next hblank =>
        rw [List.intercalate_cons_of_ne_nil (fun hnil => hblank (words_eq_nil_iff.mp hnil))]
        rfl
    | false =>
      refine .inl ⟨rfl, rfl, ?_⟩
      cases s with
      | nil => cases hs
      | cons d s =>
        obtain ⟨w, ws, hw, hcw⟩ := words_cons_of_joined s hc hs
        rw [collapse, hcw, List.intercalate_cons_cons_left, collapse, hw]

theorem collapse_ne_nil {s : Text} (h : blank s = false) : collapse s ≠ [] := by
  induction s with
  | nil => cases h
  | cons c s ih =>
    rcases collapse_cases c s with ⟨hc, heq⟩ | ⟨-, -, heq⟩ | ⟨-, -, heq⟩
    · rw [blank_cons, hc, Bool.true_and] at h
      rw [heq]
      exact ih h
    · rw [heq]
      exact List.cons_ne_nil _ _
    · rw [heq]
      exact List.cons_ne_nil _ _

theorem Collapsed.cons {c : Char} {v : Text} (hc : isBlank c = false) (h : Collapsed v) :
    Collapsed (c :: v) where
  first := by simp [hc]
  last := by
    cases v with
    | nil => simp [hc]
    | cons d v => exact h.last
  spaces := by
    rw [List.all_cons, hc, h.spaces]
    rfl
  single hin := by
    rcases List.infix_cons_iff.mp hin with hprefix | hin
    · rw [← (List.cons_prefix_cons.mp hprefix).1] at hc
      cases hc
    · exact h.single hin

/-- A word, a single space and more words. -/
theorem Collapsed.cons_space {c : Char} {v : Text} (hc : isBlank c = false) (h : Collapsed v)
    (hne : v ≠ []) : Collapsed (c :: ' ' :: v) where
  first := by simp [hc]
  last := by
    obtain ⟨d, v, rfl⟩ := List.exists_cons_of_ne_nil hne
    exact h.last
  spaces := by
    rw [List.all_cons, List.all_cons, hc, h.spaces]
    rfl
  single hin := by
    rcases List.infix_cons_iff.mp hin with hprefix | hin
    · rw [← (List.cons_prefix_cons.mp hprefix).1] at hc
      cases hc
    · rcases List.infix_cons_iff.mp hin with hprefix | hin
      · -- a second space would be the first character of what follows
        obtain ⟨d, v, rfl⟩ := List.exists_cons_of_ne_nil hne
        have hd := (List.cons_prefix_cons.mp (List.cons_prefix_cons.mp hprefix).2).1
        have hfirst := h.first
        rw [← hd] at hfirst
        cases hfirst
      · exact h.single hin

theorem collapsed_nil : Collapsed [] := ⟨rfl, rfl, rfl, by decide⟩

theorem collapsed_collapse (s : Text) : Collapsed (collapse s) := by
  induction s with
  | nil => exact collapsed_nil
  | cons c s ih =>
    rcases collapse_cases c s with ⟨-, heq⟩ | ⟨hc, -, heq⟩ | ⟨hc, -, heq⟩
    · rwa [heq]
    · rw [heq]
      exact ih.cons hc
    · rw [heq]
      split
      · exact collapsed_nil.cons hc
      · next hblank => exact ih.cons_space hc (collapse_ne_nil (by simpa using hblank))

theorem collapse_eq_self_iff {s : Text} : collapse s = s ↔ Collapsed s :=
  ⟨fun h => h ▸ collapsed_collapse s, collapse_eq_self⟩

theorem words_collapse (s : Text) : words (collapse s) = words s := by
  induction s with
  | nil => rfl
  | cons c s ih =>
    rcases collapse_cases c s with ⟨hc, heq⟩ | ⟨hc, hs, heq⟩ | ⟨hc, hs, heq⟩
    · rw [heq, ih, words_cons_of_blank hc]
    · rw [heq]
      refine words_cons_congr c ?_ ih
      have hfilled : blank s = false := by
        cases s with
        | nil => cases hs
        | cons d s =>
          have hd : isBlank d = false := hs
          rw [blank_cons, hd, Bool.false_and]
      obtain ⟨d, v, hv⟩ := List.exists_cons_of_ne_nil (collapse_ne_nil hfilled)
      have hfirst := (collapsed_collapse s).first
      rw [hv] at hfirst ⊢
      rw [hs]
      simpa using hfirst
    · rw [heq, words_cons_of_apart hc hs]
      split
      · next hblank => rw [words_eq_nil_iff.mpr hblank, words_cons_of_apart hc rfl]; rfl
      · rw [words_cons_of_apart hc (s := ' ' :: collapse s) rfl, words_cons_of_blank (by decide), ih]

/-- Collapsing keeps every character that is no blank. -/
theorem filter_collapse (s : Text) :
    (collapse s).filter (fun c => !isBlank c) = s.filter (fun c => !isBlank c) := by
  have hspace : isBlank ' ' = true := by decide
  induction s with
  | nil => rfl
  | cons c s ih =>
    rcases collapse_cases c s with ⟨hc, heq⟩ | ⟨hc, -, heq⟩ | ⟨hc, -, heq⟩
    · rw [heq, ih, List.filter_cons_of_neg (by simp [hc])]
    · rw [heq, List.filter_cons_of_pos (by simp [hc]), ih, List.filter_cons_of_pos (by simp [hc])]
    · rw [heq, List.filter_cons_of_pos (by simp [hc]), List.filter_cons_of_pos (by simp [hc])]
      split
      · next hblank =>
        rw [← ih, collapse_of_blank hblank]
      · rw [List.filter_cons_of_neg (by simp [hspace]), ih]

/-- A stretch of a collapsed text is collapsed if no blank stands at its ends. -/
theorem Collapsed.of_isInfix {u v : Text} (h : Collapsed v) (hin : u <:+: v)
    (first : u.head?.all (fun c => !isBlank c) = true)
    (last : u.getLast?.all (fun c => !isBlank c) = true) : Collapsed u where
  first := first
  last := last
  spaces := List.all_eq_true.mpr fun c hc => List.all_eq_true.mp h.spaces c (hin.subset hc)
  single hsingle := h.single (hsingle.trans hin)

/-! ## Trimmed texts -/

theorem exists_append_trimEnd (s : Text) : ∃ b, s = trimEnd s ++ b ∧ blank b = true := by
  induction s with
  | nil => exact ⟨[], rfl, rfl⟩
  | cons c s ih =>
    obtain ⟨b, hs, hb⟩ := ih
    rw [trimEnd]
    cases ht : trimEnd s with
    | nil =>
      rw [ht, List.nil_append] at hs
      cases hc : isBlank c with
      | true => exact ⟨c :: s, rfl, by simp [hc, hs, hb]⟩
      | false => exact ⟨s, rfl, hs ▸ hb⟩
    | cons d r =>
      rw [ht] at hs
      exact ⟨b, congrArg (List.cons c) hs, hb⟩

theorem getLast?_trimEnd (s : Text) : (trimEnd s).getLast?.all (fun c => !isBlank c) = true := by
  induction s with
  | nil => rfl
  | cons c s ih =>
    rw [trimEnd]
    cases ht : trimEnd s with
    | nil => cases hc : isBlank c <;> simp [hc]
    | cons d r =>
      rw [ht] at ih
      exact ih

/-- Trimming takes blanks off both ends and leaves none there. -/
theorem trim_spec (s : Text) :
    ∃ a b, s = a ++ trim s ++ b ∧ blank a = true ∧ blank b = true ∧
      (trim s).head?.all (fun c => !isBlank c) = true ∧
      (trim s).getLast?.all (fun c => !isBlank c) = true := by
  obtain ⟨b, hb, hblank⟩ := exists_append_trimEnd (trimStart s)
  refine ⟨s.takeWhile isBlank, b, ?_, List.all_takeWhile, hblank, ?_, getLast?_trimEnd _⟩
  · rw [trim, List.append_assoc, ← hb, trimStart, List.takeWhile_append_dropWhile]
  · have hnot := List.head?_dropWhile_not isBlank s
    rw [← trimStart, hb, ← trim] at hnot
    cases ht : trim s with
    | nil => rfl
    | cons d r =>
      rw [ht] at hnot
      simpa using hnot

theorem words_trim (s : Text) : words (trim s) = words s := by
  obtain ⟨a, b, hs, ha, hb, -⟩ := trim_spec s
  calc words (trim s) = words (a ++ trim s ++ b) := by
        rw [words_append_blank _ hb, words_blank_append ha]
    _ = words s := by rw [← hs]

/-! ## Cutting words -/

/-- A word, unless there is nothing in it. -/
def ofWord : Text → List Text
  | [] => []
  | c :: w => [c :: w]

/-- Cuts a list of words around the first `sep` that stands in one of them. -/
def cutWords (sep : Text) : List Text → Option (List Text × List Text)
  | [] => none
  | w :: ws =>
    match cut? sep w with
    | some (before, rest) => some (ofWord before, ofWord rest ++ ws)
    | none => (cutWords sep ws).map (Prod.map (List.cons w) id)

/-- Characters other than blanks are a word if a blank or nothing follows them. -/
theorem words_run {w : Text} (hw : ∀ c ∈ w, isBlank c = false) {rest : Text}
    (hrest : rest.head?.all isBlank = true) : words (w ++ rest) = ofWord w ++ words rest := by
  induction w with
  | nil => rfl
  | cons c w ih =>
    have hc := hw c List.mem_cons_self
    have hmore := ih fun d hd => hw d (List.mem_cons_of_mem c hd)
    cases w with
    | nil => exact words_cons_of_apart hc hrest
    | cons d w =>
      have hd := hw d (List.mem_cons_of_mem c List.mem_cons_self)
      obtain ⟨v, ws, hv, hcv⟩ := words_cons_of_joined (w ++ rest) hc hd
      rw [List.cons_append] at hmore
      rw [hmore] at hv
      cases hv
      exact hcv

section

variable {sep : Text} (hne : sep ≠ []) (hsep : ∀ c ∈ sep, isBlank c = false)

include hne in
/-- A separator that stands in a word is found there, whatever follows the word. -/
theorem cut?_run_of_some {w before after : Text} (h : cut? sep w = some (before, after))
    (rest : Text) : cut? sep (w ++ rest) = some (before, after ++ rest) := by
  rw [eq_append_of_cut? h, List.append_assoc]
  exact cut?_append hne (after ++ rest) (not_infix_of_cut? hne h)

include hsep in
/-- A separator without blanks does not run from a word into what follows it. -/
theorem prefix_of_prefix_run {w rest : Text} (hrest : rest.head?.all isBlank = true)
    (h : sep <+: w ++ rest) : sep <+: w := by
  obtain ⟨after, hafter⟩ := h
  rcases List.append_eq_append_iff.mp hafter with ⟨more, hw, -⟩ | ⟨more, hmore, hend⟩
  · exact ⟨more, hw.symm⟩
  · cases more with
    | nil =>
      rw [List.append_nil] at hmore
      exact hmore ▸ List.prefix_rfl
    | cons d more =>
      have hd : isBlank d = true := by
        rw [hend] at hrest
        exact hrest
      have hmem : d ∈ sep := hmore ▸ List.mem_append_right w List.mem_cons_self
      rw [hsep d hmem] at hd
      cases hd

include hne hsep in
/-- A separator that a word does not hold is looked for behind it. -/
theorem cut?_run_of_none {w rest : Text} (hrest : rest.head?.all isBlank = true)
    (h : cut? sep w = none) : cut? sep (w ++ rest) = (cut? sep rest).map (Prod.map (w ++ ·) id) := by
  rw [cut?_eq_none_iff hne] at h
  induction w with
  | nil =>
    rw [List.nil_append]
    cases cut? sep rest with
    | none => rfl
    | some found => rfl
  | cons c w ih =>
    rw [List.infix_cons_iff, not_or] at h
    have hother : ¬ sep <+: c :: (w ++ rest) := fun hprefix =>
      h.1 (prefix_of_prefix_run (w := c :: w) hsep hrest hprefix)
    rw [List.cons_append, cut?_cons_of_other hother, ih h.2, Option.map_map]
    rfl

include hne hsep in
/-- One word in front of a text whose words are cut as it is. -/
theorem map_cut?_run {w rest : Text} (hfilled : w ≠ []) (hw : ∀ c ∈ w, isBlank c = false)
    (hrest : rest.head?.all isBlank = true)
    (h : (cut? sep rest).map (Prod.map words words) = cutWords sep (words rest)) :
    (cut? sep (w ++ rest)).map (Prod.map words words) = cutWords sep (words (w ++ rest)) := by
  have hword : ofWord w = [w] := by
    cases w with
    | nil => exact absurd rfl hfilled
    | cons c w => rfl
  rw [words_run hw hrest, hword, List.singleton_append, cutWords]
  cases hcut : cut? sep w with
  | some found =>
    obtain ⟨before, after⟩ := found
    have hspelled := eq_append_of_cut? hcut
    have hbefore := @words_run before (fun c hc => hw c (by simp [hspelled, hc])) [] rfl
    have hafter := @words_run after (fun c hc => hw c (by simp [hspelled, hc])) rest hrest
    rw [List.append_nil] at hbefore
    rw [cut?_run_of_some hne hcut, Option.map_some, Prod.map_apply, hbefore, hafter]
    exact congrArg some (Prod.ext (List.append_nil _) rfl)
  | none =>
    rw [cut?_run_of_none hne hsep hrest hcut, ← h]
    cases hcut' : cut? sep rest with
    | none => rfl
    | some found =>
      obtain ⟨before, after⟩ := found
      -- what stands before the separator begins with a blank, as the rest does
      have hbefore : before.head?.all isBlank = true := by
        cases before with
        | nil => rfl
        | cons d before =>
          rw [eq_append_of_cut? hcut'] at hrest
          exact hrest
      have hwords := words_run hw hbefore
      rw [hword] at hwords
      simp [hwords]

include hne hsep in
/-- Where a text is cut around a separator without blanks shows in its words. -/
theorem map_cut?_words : ∀ s : Text,
    (cut? sep s).map (Prod.map words words) = cutWords sep (words s)
  | [] => by
    rw [(cut?_eq_none_iff hne).mpr (by simpa using hne)]
    rfl
  | c :: s => by
    cases hc : isBlank c with
    | true =>
      have hother : ¬ sep <+: c :: s := by
        rintro ⟨after, hafter⟩
        obtain ⟨d, more, rfl⟩ := List.exists_cons_of_ne_nil hne
        rw [← (List.cons.inj hafter).1, hsep d List.mem_cons_self] at hc
        cases hc
      have hmore := map_cut?_words s
      rw [words_cons_of_blank hc, ← hmore, cut?_cons_of_other hother]
      cases cut? sep s with
      | none => rfl
      | some found =>
        obtain ⟨before, after⟩ := found
        simp [words_cons_of_blank hc]
    | false =>
      have hsplit : c :: s = c :: s.takeWhile (fun d => !isBlank d) ++
          s.dropWhile (fun d => !isBlank d) := by
        rw [List.cons_append, List.takeWhile_append_dropWhile]
      have hshorter : (s.dropWhile fun d => !isBlank d).length < (c :: s).length :=
        Nat.lt_succ_of_le (List.dropWhile_suffix _).length_le
      have hmore := map_cut?_words (s.dropWhile fun d => !isBlank d)
      rw [hsplit]
      refine map_cut?_run hne hsep (List.cons_ne_nil _ _) ?_ ?_ hmore
      · intro d hd
        rcases List.mem_cons.mp hd with rfl | hd
        · exact hc
        · simpa using List.all_eq_true.mp List.all_takeWhile d hd
      · have hnot := List.head?_dropWhile_not (fun d => !isBlank d) s
        cases hs : s.dropWhile fun d => !isBlank d with
        | nil => rfl
        | cons d t =>
          rw [hs] at hnot
          simpa using hnot
termination_by s => s.length
decreasing_by
  · exact hshorter
  · exact Nat.lt_succ_self _

end

/-- Two texts with the same words are cut alike. -/
theorem words_of_cut? {sep s t before rest : Text} (hne : sep ≠ [])
    (hsep : ∀ c ∈ sep, isBlank c = false) (h : words s = words t)
    (hcut : cut? sep s = some (before, rest)) :
    ∃ before' rest', cut? sep t = some (before', rest') ∧ words before' = words before ∧
      words rest' = words rest := by
  have hs := map_cut?_words hne hsep s
  rw [h, ← map_cut?_words hne hsep t, hcut, Option.map_some] at hs
  obtain ⟨⟨before', rest'⟩, ht, heq⟩ := Option.map_eq_some_iff.mp hs.symm
  rw [Prod.map_apply, Prod.map_apply, Prod.mk.injEq] at heq
  exact ⟨before', rest', ht, heq⟩

end JsxTemplate.Text
