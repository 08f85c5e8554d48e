import JsxTemplate.Text.Blank
import Mathlib.Data.List.Basic

/-!
# First occurrences and blanks

A text is cut around the first place where a separator stands, and nowhere
else. The words of a text do not depend on how much blank stands around and
between them, and a text that is laid out with single spaces is its own
collapsed form.
-/

namespace JsxTemplate.Text

/-! ## First occurrences -/

theorem after?_eq_none_iff {pat s : Text} : after? pat s = none ↔ ¬ pat <+: s := by
  constructor
  · rintro h ⟨rest, rfl⟩
    rw [after?_append] at h
    cases h
  · intro h
    cases ha : after? pat s with
    | none => rfl
    | some rest => exact absurd ⟨rest, (append_of_after? ha).symm⟩ h

theorem cut?_cons_of_other {sep s : Text} {c : Char} (h : ¬ sep <+: c :: s) :
    cut? sep (c :: s) = (cut? sep s).map fun (before, rest) => (c :: before, rest) := by
  rw [cut?, search, after?_eq_none_iff.mpr h, cut?]

theorem cut?_self_append {sep rest : Text} (hsep : sep ≠ []) :
    cut? sep (sep ++ rest) = some ([], rest) := by
  cases sep with
  | nil => exact absurd rfl hsep
  | cons c sep =>
    have h := after?_append (c :: sep) rest
    rw [List.cons_append] at h ⊢
    rw [cut?, search, h]

/-- A separator that a text does not hold cuts nothing, and the other way round. -/
theorem cut?_eq_none_iff {sep s : Text} (hsep : sep ≠ []) : cut? sep s = none ↔ ¬ sep <:+: s := by
  induction s with
  | nil =>
    cases sep with
    | nil => exact absurd rfl hsep
    | cons c sep => simp [cut?, search, after?]
  | cons c s ih =>
    rw [List.infix_cons_iff]
    by_cases hp : sep <+: c :: s
    · obtain ⟨rest, hrest⟩ := hp
      rw [← hrest, cut?_self_append hsep]
      simp
    · rw [cut?_cons_of_other hp, Option.map_eq_none_iff, ih]
      simp [hp]

/-- The place of a cut is the first one: the separator does not begin earlier,
not even by running into itself. -/
theorem not_infix_of_cut? {sep : Text} (hsep : sep ≠ []) :
    ∀ {s before rest : Text}, cut? sep s = some (before, rest) →
      ¬ sep <:+: before ++ sep.dropLast := by
  have hlast : sep.dropLast.length < sep.length := by
    have := List.length_pos_iff.mpr hsep
    rw [List.length_dropLast]
    omega
  intro s
  induction s with
  | nil =>
    intro before rest h
    rw [(cut?_eq_none_iff hsep).mpr (by simpa using hsep)] at h
    cases h
  | cons c s ih =>
    intro before rest h hin
    by_cases hp : sep <+: c :: s
    · obtain ⟨r, hr⟩ := hp
      rw [← hr, cut?_self_append hsep] at h
      cases h
      have := hin.length_le
      rw [List.nil_append] at this
      omega
    · rw [cut?_cons_of_other hp, Option.map_eq_some_iff] at h
      obtain ⟨⟨b, r⟩, hb, he⟩ := h
      cases he
      rw [List.cons_append] at hin
      rcases List.infix_cons_iff.mp hin with hpre | hinf
      · apply hp
        refine hpre.trans ?_
        rw [eq_append_of_cut? hb, List.append_assoc]
        exact (List.prefix_append_right_inj (c :: b)).mpr
          ((List.dropLast_prefix sep).trans (List.prefix_append sep _))
      · exact ih hb hinf

/-- A text is cut at a separator when no earlier one begins. -/
theorem cut?_append {sep : Text} (hsep : sep ≠ []) (rest : Text) :
    ∀ {before : Text}, ¬ sep <:+: before ++ sep.dropLast →
      cut? sep (before ++ sep ++ rest) = some (before, rest) := by
  have hpos := List.length_pos_iff.mpr hsep
  intro before
  induction before with
  | nil =>
    intro _
    exact cut?_self_append hsep
  | cons c b ih =>
    intro h
    rw [List.cons_append, List.infix_cons_iff, not_or] at h
    have hp : ¬ sep <+: c :: (b ++ sep ++ rest) := by
      intro hp
      apply h.1
      -- both are prefixes of the text, and the separator is the shorter one
      refine List.prefix_of_prefix_length_le hp ?_ ?_
      · rw [List.append_assoc]
        exact (List.prefix_append_right_inj (c :: b)).mpr
          ((List.dropLast_prefix sep).trans (List.prefix_append sep rest))
      · simp only [List.length_cons, List.length_append, List.length_dropLast]
        omega
    rw [List.cons_append, List.cons_append, cut?_cons_of_other hp, ih h.2]
    rfl

/-- A text is cut at the first of a character. -/
theorem cut?_char {c : Char} {before : Text} (h : c ∉ before) (rest : Text) :
    cut? [c] (before ++ c :: rest) = some (before, rest) := by
  have hnot : ¬ [c] <:+: before ++ [c].dropLast := by
    intro hin
    rw [List.dropLast_singleton, List.append_nil] at hin
    exact h (hin.subset (List.mem_singleton_self c))
  have hcut := cut?_append (List.cons_ne_nil c []) rest hnot
  rwa [List.append_assoc] at hcut

/-- A run of characters with a property ends where a character without it stands. -/
theorem takeWhile_run {p : Char → Bool} {run : Text} (hrun : ∀ c ∈ run, p c = true)
    {rest : Text} (hrest : rest.head?.all (fun c => !p c) = true) :
    (run ++ rest).takeWhile p = run ∧ (run ++ rest).dropWhile p = rest := by
  rw [List.takeWhile_append_of_pos hrun, List.dropWhile_append_of_pos hrun]
  cases rest with
  | nil => exact ⟨List.append_nil _, rfl⟩
  | cons c s =>
    have hc : ¬ p c = true := by simpa using hrest
    rw [List.takeWhile_cons_of_neg hc, List.dropWhile_cons_of_neg hc]
    exact ⟨List.append_nil _, rfl⟩

/-! ## Blanks -/

@[simp] theorem blank_nil : blank [] = true := rfl

@[simp] theorem blank_cons (c : Char) (s : Text) : blank (c :: s) = (isBlank c && blank s) := rfl

@[simp] theorem blank_append (s t : Text) : blank (s ++ t) = (blank s && blank t) :=
  List.all_append

theorem blank_iff {s : Text} : blank s = true ↔ ∀ c ∈ s, isBlank c = true := List.all_eq_true

theorem trimEnd_eq_nil_iff {s : Text} : trimEnd s = [] ↔ blank s = true := by
  induction s with
  | nil => simp [trimEnd]
  | cons c s ih =>
    rw [trimEnd, blank_cons, Bool.and_eq_true, ← ih]
    cases trimEnd s with
    | nil => by_cases hc : isBlank c <;> simp [hc]
    | cons d r => simp

/-- Trimming leaves nothing of a blank text, and of no other. -/
theorem trim_eq_nil_iff {s : Text} : trim s = [] ↔ blank s = true := by
  rw [trim, trimEnd_eq_nil_iff]
  induction s with
  | nil => simp [trimStart]
  | cons c s ih =>
    rw [trimStart] at ih ⊢
    by_cases hc : isBlank c
    · rw [List.dropWhile_cons_of_pos hc, ih, blank_cons, hc, Bool.true_and]
    · rw [List.dropWhile_cons_of_neg hc]

/-! ## Words -/

theorem words_cons (c : Char) (s : Text) :
    words (c :: s) =
      if isBlank c then words s
      else
        match s, words s with
        | d :: _, w :: ws => if isBlank d then [c] :: w :: ws else (c :: w) :: ws
        | _, ws => [c] :: ws := rfl

theorem words_cons_of_blank {c : Char} (hc : isBlank c = true) (s : Text) :
    words (c :: s) = words s := by
  rw [words_cons, if_pos hc]

theorem words_blank_append {b : Text} (hb : blank b = true) (s : Text) :
    words (b ++ s) = words s := by
  induction b with
  | nil => rfl
  | cons c b ih =>
    rw [blank_cons, Bool.and_eq_true] at hb
    rw [List.cons_append, words_cons_of_blank hb.1, ih hb.2]

/-- A character with a blank or nothing behind it is a word of its own so far. -/
theorem words_cons_of_apart {c : Char} {s : Text} (hc : isBlank c = false)
    (hs : s.head?.all isBlank = true) : words (c :: s) = [c] :: words s := by
  rw [words_cons, if_neg (by simp [hc])]
  cases s with
  | nil => rfl
  | cons d s =>
    have hd : isBlank d = true := hs
    cases words (d :: s) with
    | nil => rfl
    | cons w ws => simp only [hd, ↓reduceIte]

/-- A character with another right behind it joins that one's word. -/
theorem words_cons_of_joined {c d : Char} (s : Text) (hc : isBlank c = false)
    (hd : isBlank d = false) :
    ∃ w ws, words (d :: s) = w :: ws ∧ words (c :: d :: s) = (c :: w) :: ws := by
  have hne : words (d :: s) ≠ [] := by
    rw [words_cons, if_neg (by simp [hd])]
    split
    · split <;> exact List.cons_ne_nil _ _
    · exact List.cons_ne_nil _ _
  obtain ⟨w, ws, hw⟩ := List.exists_cons_of_ne_nil hne
  refine ⟨w, ws, hw, ?_⟩
  rw [words_cons, if_neg (by simp [hc]), hw]
  simp only [hd, Bool.false_eq_true, ↓reduceIte]

/-- The words of a text with one more character in front depend on the words
behind it and on whether a word begins right there. -/
theorem words_cons_congr {s t : Text} (c : Char)
    (hhead : s.head?.all isBlank = t.head?.all isBlank) (hwords : words s = words t) :
    words (c :: s) = words (c :: t) := by
  cases hc : isBlank c with
  | true => rw [words_cons_of_blank hc, words_cons_of_blank hc, hwords]
  | false =>
    cases hs : s.head?.all isBlank with
    | true =>
      rw [words_cons_of_apart hc hs, words_cons_of_apart hc (hhead ▸ hs), hwords]
    | false =>
      have ht := hhead ▸ hs
      cases s with
      | nil => cases hs
      | cons d s =>
        cases t with
        | nil => cases ht
        | cons e t =>
          obtain ⟨w, ws, hw, hcw⟩ := words_cons_of_joined s hc hs
          obtain ⟨v, vs, hv, hcv⟩ := words_cons_of_joined t hc ht
          rw [hw, hv] at hwords
          cases hwords
          rw [hcw, hcv]

theorem words_append_blank (s : Text) {b : Text} (hb : blank b = true) :
    words (s ++ b) = words s := by
  induction s with
  | nil =>
    have h := words_blank_append hb []
    rwa [List.append_nil] at h
  | cons c s ih =>
    refine words_cons_congr c ?_ ih
    cases s with
    | nil =>
      cases b with
      | nil => rfl
      | cons d b =>
        rw [blank_cons, Bool.and_eq_true] at hb
        exact hb.1
    | cons d s => rfl

/-- Nothing but single spaces parts the words of a text, and no blank stands at
its ends. -/
structure Collapsed (s : Text) : Prop where
  first : s.head?.all (fun c => !isBlank c) = true
  last : s.getLast?.all (fun c => !isBlank c) = true
  spaces : s.all (fun c => !isBlank c || c == ' ') = true
  single : ¬ [' ', ' '] <:+: s

/-- An end of a collapsed text that begins with a word is collapsed. -/
theorem Collapsed.of_append {a s : Text} {c : Char} (h : Collapsed (a ++ c :: s))
    (hc : isBlank c = false) : Collapsed (c :: s) where
  first := by simp [hc]
  last := by
    have hlast := h.last
    rwa [List.getLast?_append_of_ne_nil a (List.cons_ne_nil c s)] at hlast
  spaces := by
    have hall := h.spaces
    rw [List.all_append, Bool.and_eq_true] at hall
    exact hall.2
  single := fun hin => h.single (hin.trans (List.suffix_append a _).isInfix)

/-- A blank inside is a space, and a word begins behind it. -/
theorem Collapsed.after_blank {c d : Char} {s : Text} (h : Collapsed (c :: d :: s))
    (hd : isBlank d = true) : d = ' ' ∧ ∃ e t, s = e :: t ∧ isBlank e = false := by
  have hspaces := h.spaces
  simp only [List.all_cons, Bool.and_eq_true, hd, Bool.not_true, Bool.false_or,
    beq_iff_eq] at hspaces
  obtain ⟨-, rfl, hs⟩ := hspaces
  refine ⟨rfl, ?_⟩
  cases s with
  | nil =>
    have hlast := h.last
    simp [hd] at hlast
  | cons e t =>
    refine ⟨e, t, rfl, ?_⟩
    rw [List.all_cons, Bool.and_eq_true, Bool.or_eq_true, Bool.not_eq_true', beq_iff_eq] at hs
    rcases hs.1 with he | rfl
    · exact he
    · exact absurd ⟨[c], t, rfl⟩ h.single

/-- A text that is laid out with single spaces stays as it is. -/
theorem collapse_eq_self : ∀ {s : Text}, Collapsed s → collapse s = s
  | [], _ => rfl
  | [c], h => by
    have hc : isBlank c = false := by simpa using h.first
    rw [collapse, words_cons_of_apart hc rfl]
    rfl
  | c :: d :: s, h => by
    have hc : isBlank c = false := by simpa using h.first
    cases hd : isBlank d with
    | false =>
      obtain ⟨w, ws, hw, hcw⟩ := words_cons_of_joined s hc hd
      have ih := collapse_eq_self (Collapsed.of_append (a := [c]) h hd)
      rw [collapse, hw] at ih
      rw [collapse, hcw, List.intercalate_cons_cons_left, ih]
    | true =>
      obtain ⟨rfl, e, t, rfl, he⟩ := h.after_blank hd
      have ih := collapse_eq_self (Collapsed.of_append (a := [c, ' ']) h he)
      have hwords : words (e :: t) ≠ [] := by
        intro hnil
        rw [collapse, hnil] at ih
        cases ih
      rw [collapse, words_cons_of_apart (s := ' ' :: e :: t) hc hd, words_cons_of_blank hd,
        List.intercalate_cons_of_ne_nil hwords]
      rw [collapse] at ih
      rw [ih]
      rfl

/-- Collapsing sees nothing of the blanks around a text. -/
theorem collapse_between_blanks {a b : Text} (ha : blank a = true) (s : Text)
    (hb : blank b = true) : collapse (a ++ s ++ b) = collapse s := by
  rw [collapse, collapse, words_append_blank _ hb, words_blank_append ha]

theorem collapse_of_blank {s : Text} (h : blank s = true) : collapse s = [] := by
  have hwords := words_blank_append h []
  rw [List.append_nil] at hwords
  rw [collapse, hwords]
  rfl

/-- `s` is a text with each space replaced by a run of blanks, however long. -/
inductive Respaced : Text → Text → Prop
  | nil : Respaced [] []
  | char {c : Char} {v s : Text} (other : c ≠ ' ') (more : Respaced v s) :
      Respaced (c :: v) (c :: s)
  | space {run v s : Text} (filled : run ≠ []) (blanks : blank run = true) (more : Respaced v s) :
      Respaced (' ' :: v) (run ++ s)

theorem Respaced.head?_all {v s : Text} (h : Respaced v s) :
    s.head?.all isBlank = v.head?.all isBlank := by
  cases h with
  | nil => rfl
  | char other more => rfl
  | @space run v s filled blanks more =>
    cases run with
    | nil => exact absurd rfl filled
    | cons c run =>
      rw [blank_cons, Bool.and_eq_true] at blanks
      exact blanks.1

/-- Respacing keeps what stands before the first space. -/
theorem Respaced.exists_append {a v s : Text} (h : Respaced (a ++ v) s) (ha : ' ' ∉ a) :
    ∃ t, s = a ++ t := by
  induction a generalizing s with
  | nil => exact ⟨s, rfl⟩
  | cons c a ih =>
    rw [List.mem_cons, not_or] at ha
    cases h with
    | char other more =>
      obtain ⟨t, rfl⟩ := ih more ha.2
      exact ⟨t, rfl⟩
    | space filled blanks more => exact absurd rfl ha.1

theorem Respaced.words_eq {v s : Text} (h : Respaced v s) : words s = words v := by
  induction h with
  | nil => rfl
  | char other more ih => exact words_cons_congr _ more.head?_all ih
  | space filled blanks more ih =>
    rw [words_blank_append blanks, words_cons_of_blank (by decide), ih]

/-- Respacing a collapsed text and putting blanks around it changes nothing
that collapsing does not undo. -/
theorem Respaced.collapse_eq {v s a b : Text} (h : Respaced v s) (hv : Collapsed v)
    (ha : blank a = true) (hb : blank b = true) : collapse (a ++ s ++ b) = v := by
  rw [collapse_between_blanks ha s hb, collapse, h.words_eq]
  exact collapse_eq_self hv

end JsxTemplate.Text
