import JsxTemplate.Proofs.RoundTrip

/-!
# Ampersands in a text

What the tree holds of a text without tags, whatever its ampersands begin. A
reference keeps its spelling and gets a semicolon if it has none; a bare
ampersand stays. A `&#` that begins no number ends the first pass of the reader,
and the second pass makes up for it only once and only if a semicolon follows
somewhere in the text.
-/

namespace JsxTemplate

open Markup (Piece Located locate)

/-! ## Texts and their references -/

/-- Does a character go on with a reference? What looks like the start of a
number is not told from one as long as hexadecimal digits follow. -/
def continuesReference (ref : Text) (c : Char) : Bool :=
  if ref.head? = some '#' then Text.isHexDigit c else Markup.isReferenceChar c

/-- A whole reference stands at the start of `s`, behind its ampersand, and
`after` follows it. -/
structure Leads (s ref after : Text) : Prop where
  spelled : s = ref ++ after
  reference : Reference ref
  ended : after.head?.all (fun c => !continuesReference ref c) = true

/-- `u` is what the reader makes of the text `t`: a semicolon is added to each
reference that has none. `strays` are the rests of `t` behind each `&#` that
begins no number. -/
inductive Mended : Text → Text → List Text → Prop
  | nil : Mended [] [] []
  | char {c : Char} {t u : Text} {strays : List Text} (other : c ≠ '&')
      (more : Mended t u strays) : Mended (c :: t) (c :: u) strays
  | closed {s ref t u : Text} {strays : List Text} (here : Leads s ref (';' :: t))
      (more : Mended t u strays) : Mended ('&' :: s) ('&' :: ref ++ ';' :: u) strays
  | opened {s ref t u : Text} {strays : List Text} (here : Leads s ref t)
      (unclosed : t.head? ≠ some ';') (more : Mended t u strays) :
      Mended ('&' :: s) ('&' :: ref ++ ';' :: u) strays
  | bare {t u : Text} {strays : List Text} (free : ∀ ref after, ¬ Leads t ref after)
      (sharp : t.head? ≠ some '#') (more : Mended t u strays) :
      Mended ('&' :: t) ('&' :: u) strays
  | stray {t u : Text} {strays : List Text} (free : ∀ ref after, ¬ Leads ('#' :: t) ref after)
      (more : Mended t u strays) : Mended ('&' :: '#' :: t) ('&' :: '#' :: u) (t :: strays)

theorem Markup.isReferenceChar_of_isDigit {c : Char} (h : c.isDigit = true) :
    isReferenceChar c = true := by
  have halnum : (c.isAlpha || c.isDigit) = true := by rw [h, Bool.or_true]
  rw [isReferenceChar, Char.isAlphanum, halnum]
  rfl

theorem Markup.isReferenceChar_of_isHexDigit {c : Char} (h : Text.isHexDigit c = true) :
    isReferenceChar c = true := by
  have hletter (halpha : c.isAlpha = true) : isReferenceChar c = true := by
    rw [isReferenceChar, Char.isAlphanum, halpha]
    rfl
  rw [Text.isHexDigit, Bool.or_eq_true, Bool.or_eq_true, Bool.and_eq_true, Bool.and_eq_true,
    decide_eq_true_iff, decide_eq_true_iff, decide_eq_true_iff, decide_eq_true_iff] at h
  rcases h with (h | ⟨hfrom, hto⟩) | ⟨hfrom, hto⟩
  · exact isReferenceChar_of_isDigit h
  · have hlower : c.isLower = true :=
      Bool.and_eq_true_iff.mpr ⟨decide_eq_true hfrom, decide_eq_true (Nat.le_trans hto (by decide))⟩
    refine hletter ?_
    show (c.isUpper || c.isLower) = true
    rw [hlower, Bool.or_true]
  · have hupper : c.isUpper = true :=
      decide_eq_true ⟨hfrom, Nat.le_trans hto (by decide)⟩
    refine hletter ?_
    show (c.isUpper || c.isLower) = true
    rw [hupper, Bool.true_or]

/-- Nothing but a sharp and characters of names stands in a reference. -/
theorem Reference.not_mem {ref : Text} (h : Reference ref) {c : Char} (hsharp : c ≠ '#')
    (hc : Markup.isReferenceChar c = false) : c ∉ ref := by
  have hother {p : Char → Bool} {run : Text} (hrun : run.all p = true)
      (hp : ∀ d, p d = true → Markup.isReferenceChar d = true) : c ∉ run := by
    intro hmem
    rw [hp c (List.all_eq_true.mp hrun c hmem)] at hc
    cases hc
  cases h with
  | @hex mark run marked filled digits =>
    have hmark : c ≠ mark := by
      rintro rfl
      rcases marked with rfl | rfl <;> cases hc
    have hrun : c ∉ run := hother digits fun _ => Markup.isReferenceChar_of_isHexDigit
    simp [hsharp, hmark, hrun]
  | @decimal run filled digits =>
    have hrun : c ∉ run := hother digits fun _ => Markup.isReferenceChar_of_isDigit
    simp [hsharp, hrun]
  | @named d run letter chars => exact hother chars fun _ h => h

/-- A letter begins a reference, however long its name is. -/
theorem exists_leads_of_letter {c : Char} (hc : c.isAlpha = true) (s : Text) :
    ∃ ref after, Leads (c :: s) ref after := by
  have hfirst : Markup.isReferenceChar c = true := by
    simp [Markup.isReferenceChar, Char.isAlphanum, hc]
  have hhash : ¬ c = '#' := by
    rintro rfl
    cases hc
  refine ⟨c :: s.takeWhile Markup.isReferenceChar, s.dropWhile Markup.isReferenceChar, ?_, ?_, ?_⟩
  · rw [List.cons_append, List.takeWhile_append_dropWhile]
  · refine .named hc ?_
    rw [List.all_cons, hfirst, List.all_takeWhile]
    rfl
  · have hnot := List.head?_dropWhile_not Markup.isReferenceChar s
    cases hs : s.dropWhile Markup.isReferenceChar with
    | nil => rfl
    | cons d t =>
      rw [hs] at hnot
      simpa [continuesReference, hhash] using hnot

/-- Every text is made into something. -/
theorem exists_mended : ∀ t : Text, ∃ u strays, Mended t u strays
  | [] => ⟨[], [], .nil⟩
  | c :: s => by
    have hrec (t : Text) (hle : t.length ≤ s.length) : ∃ u strays, Mended t u strays :=
      exists_mended t
    by_cases hamp : c = '&'
    · subst hamp
      by_cases hlead : ∃ ref after, Leads s ref after
      · obtain ⟨ref, after, hlead⟩ := hlead
        have hshorter : after.length ≤ s.length := by
          rw [hlead.spelled, List.length_append]
          exact Nat.le_add_left _ _
        by_cases hclosed : after.head? = some ';'
        · obtain ⟨t, rfl⟩ := List.head?_eq_some_iff.mp hclosed
          obtain ⟨u, strays, hmore⟩ := hrec t (Nat.le_of_succ_le hshorter)
          exact ⟨_, strays, .closed hlead hmore⟩
        · obtain ⟨u, strays, hmore⟩ := hrec after hshorter
          exact ⟨_, strays, .opened hlead hclosed hmore⟩
      · have hfree : ∀ ref after, ¬ Leads s ref after := fun ref after h => hlead ⟨ref, after, h⟩
        by_cases hsharp : s.head? = some '#'
        · obtain ⟨t, rfl⟩ := List.head?_eq_some_iff.mp hsharp
          obtain ⟨u, strays, hmore⟩ := hrec t (Nat.le_succ _)
          exact ⟨_, _, .stray hfree hmore⟩
        · obtain ⟨u, strays, hmore⟩ := hrec s (Nat.le_refl _)
          exact ⟨_, strays, .bare hfree hsharp hmore⟩
    · obtain ⟨u, strays, hmore⟩ := hrec s (Nat.le_refl _)
      exact ⟨_, strays, .char hamp hmore⟩
termination_by t => t.length
decreasing_by exact Nat.lt_succ_of_le hle

/-- A text without ampersands stays as it is. -/
theorem mended_of_no_ampersand {t : Text} (h : '&' ∉ t) : Mended t t [] := by
  induction t with
  | nil => exact .nil
  | cons c t ih =>
    rw [List.mem_cons, not_or] at h
    exact .char (Ne.symm h.1) (ih h.2)

theorem Mended.of_cons {c : Char} {t u : Text} {strays : List Text} (hc : c ≠ '&')
    (h : Mended (c :: t) u strays) : ∃ v, u = c :: v ∧ Mended t v strays := by
  cases h with
  | char other more => exact ⟨_, rfl, more⟩
  | closed | opened | bare | stray => exact absurd rfl hc

/-- Characters before the first ampersand stay as they are. -/
theorem Mended.of_append {run t u : Text} {strays : List Text} (hrun : '&' ∉ run)
    (h : Mended (run ++ t) u strays) : ∃ v, u = run ++ v ∧ Mended t v strays := by
  induction run generalizing u with
  | nil => exact ⟨u, rfl, h⟩
  | cons c run ih =>
    rw [List.mem_cons, not_or] at hrun
    obtain ⟨w, rfl, hmore⟩ := h.of_cons (Ne.symm hrun.1)
    obtain ⟨v, rfl, hv⟩ := ih hrun.2 hmore
    exact ⟨v, rfl, hv⟩

/-! ## Moves at an ampersand -/

namespace Markup

open Text

theorem isHexDigit_of_isDigit {c : Char} (h : c.isDigit = true) : isHexDigit c = true := by
  simp [isHexDigit, h]

/-- Digits are a number if no further hexadecimal digit stands behind them. -/
theorem digits?_of_ended {p : Char → Bool} (hp : ∀ c, p c = true → isHexDigit c = true)
    {run : Text} (hne : run ≠ []) (hrun : run.all p = true) {c : Char} (hc : isHexDigit c = false)
    (rest : Text) : digits? p (run ++ c :: rest) = some (run, c :: rest) := by
  have hother : p c = false := by
    cases h : p c with
    | false => rfl
    | true => rw [hp c h] at hc; cases hc
  obtain ⟨htake, hdrop⟩ := @takeWhile_run p run (List.all_eq_true.mp hrun) (c :: rest)
    (by simp [hother])
  obtain ⟨d, s, rfl⟩ := List.exists_cons_of_ne_nil hne
  rw [digits?, htake, hdrop]
  simp only [hc, Bool.false_eq_true, ↓reduceIte]

/-- A number is made of digits, and none stands behind it. -/
theorem of_digits? {p : Char → Bool} {s number rest : Text}
    (h : digits? p s = some (number, rest)) :
    s = number ++ rest ∧ number ≠ [] ∧ number.all p = true ∧
      rest.head?.all (fun c => !isHexDigit c) = true := by
  unfold digits? at h
  split at h
  · next htake hdrop =>
    split at h
    · cases h
    · next hhex =>
      simp only [Option.some.injEq, Prod.mk.injEq] at h
      obtain ⟨rfl, rfl⟩ := h
      refine ⟨?_, ?_, List.all_takeWhile, by simpa using hhex⟩
      · rw [← hdrop, List.takeWhile_append_dropWhile]
      · rw [htake]
        exact List.cons_ne_nil _ _
  · cases h

/-- A number makes a reference with its sharp. -/
theorem leads_of_referenceNumber? {s number rest : Text}
    (h : referenceNumber? s = some (number, rest)) : Leads ('#' :: s) ('#' :: number) rest := by
  have hends {t : Text} (ht : rest.head?.all (fun c => !isHexDigit c) = true) :
      rest.head?.all (fun c => !continuesReference ('#' :: t) c) = true := ht
  unfold referenceNumber? at h
  split at h
  · obtain ⟨⟨run, after⟩, hd, he⟩ := Option.map_eq_some_iff.mp h
    cases he
    obtain ⟨rfl, hne, hall, hrest⟩ := of_digits? hd
    exact ⟨rfl, .hex (.inl rfl) hne hall, hends hrest⟩
  · obtain ⟨⟨run, after⟩, hd, he⟩ := Option.map_eq_some_iff.mp h
    cases he
    obtain ⟨rfl, hne, hall, hrest⟩ := of_digits? hd
    exact ⟨rfl, .hex (.inr rfl) hne hall, hends hrest⟩
  · obtain ⟨rfl, hne, hall, hrest⟩ := of_digits? h
    exact ⟨rfl, .decimal hne hall, hends hrest⟩

/-- A whole reference is read up to its end, and its text has a semicolon. -/
theorem ampersandStep_leads (closing : Bool) {s ref after : Text} (h : Leads s ref after)
    (hne : after ≠ []) :
    ampersandStep closing s = .take (.text ('&' :: ref ++ [';'])) .markup (skipSemicolon after) := by
  obtain ⟨rfl, reference, ended⟩ := h
  obtain ⟨c, rest, rfl⟩ := List.exists_cons_of_ne_nil hne
  have hc : continuesReference ref c = false := by simpa using ended
  cases reference with
  | @hex mark run marked filled digits =>
    have hdigits := digits?_of_ended (fun _ h => h) filled digits hc rest
    rcases marked with rfl | rfl
    · simp [ampersandStep, referenceNumber?, hdigits]
    · simp [ampersandStep, referenceNumber?, hdigits]
  | @decimal run filled digits =>
    have hdigits := digits?_of_ended (fun _ => isHexDigit_of_isDigit) filled digits hc rest
    have hnumber : referenceNumber? (run ++ c :: rest) = some (run, c :: rest) := by
      obtain ⟨d, s, rfl⟩ := List.exists_cons_of_ne_nil filled
      rw [List.all_cons, Bool.and_eq_true] at digits
      -- a digit is none of the marks of hexadecimal numbers
      unfold referenceNumber?
      split
      · next h =>
        cases h
        cases digits.1
      · next h =>
        cases h
        cases digits.1
      · exact hdigits
    simp [ampersandStep, hnumber]
  | @named d run letter chars =>
    have hhash : ¬ d = '#' := by
      rintro rfl
      cases letter
    have hother : isReferenceChar c = false := by simpa [continuesReference, hhash] using hc
    obtain ⟨htake, hdrop⟩ := @takeWhile_run isReferenceChar (d :: run) (List.all_eq_true.mp chars)
      (c :: rest) (by simp [hother])
    have hname : referenceName? (d :: (run ++ c :: rest)) = some (d :: run, c :: rest) := by
      rw [← List.cons_append, referenceName?, hdrop, htake]
    simp [ampersandStep, letter, hname]

/-- An ampersand that begins nothing is a text of its own. -/
theorem ampersandStep_bare (closing : Bool) {s : Text} (hne : s ≠ [])
    (hletter : s.head?.all (fun c => !c.isAlpha) = true) (hsharp : s.head? ≠ some '#') :
    ampersandStep closing s = .take (.text ['&']) .markup s := by
  obtain ⟨c, t, rfl⟩ := List.exists_cons_of_ne_nil hne
  have hc : ¬ c.isAlpha = true := by simpa using hletter
  unfold ampersandStep
  split
  · next h => cases h
  · next h => exact absurd (congrArg List.head? h) hsharp
  · next h =>
    cases h
    rw [if_neg hc]

/-- A sharp that begins no number stops the pass. -/
theorem ampersandStep_stray (closing : Bool) {s : Text} (h : referenceNumber? s = none) :
    ampersandStep closing ('#' :: s) =
      if ';' ∈ s then .stop (some (.text "&#")) s else .stop none ('&' :: '#' :: s) := by
  simp only [ampersandStep, h]

theorem skipSemicolon_of_head?_ne {s : Text} (h : s.head? ≠ some ';') : skipSemicolon s = s := by
  unfold skipSemicolon
  split
  · exact absurd rfl h
  · rfl

/-- Plain characters are taken together. -/
theorem step_plain (closing : Bool) {c : Char} (hc : isPlainChar c = true) (s : Text) :
    step closing .markup (c :: s) =
      .take (.text ((c :: s).takeWhile isPlainChar)) .markup ((c :: s).dropWhile isPlainChar) := by
  unfold step
  split
  · next h => cases h
  · next h _ => cases h
  · next h =>
    rw [(List.cons.inj h).1] at hc
    cases hc
  · next h =>
    rw [(List.cons.inj h).1] at hc
    cases hc
  · rfl

/-! ## Passes over a text -/

/-- A pass that has read more pieces before. -/
def Pass.behind (pieces : List Piece) (p : Pass) : Pass := { p with pieces := pieces ++ p.pieces }

theorem Pass.behind_append (ps qs : List Piece) (p : Pass) :
    p.behind (ps ++ qs) = (p.behind qs).behind ps := by
  rw [Pass.behind, Pass.behind, Pass.behind, List.append_assoc]

theorem pass_of_take {closing : Bool} {mode mode' : Mode} {s rest : Text} {event : Event}
    (h : step closing mode s = .take event mode' rest) :
    pass closing mode s = (pass closing mode' rest).behind [.between s rest event] := by
  rw [pass]
  split
  · next hmoved =>
    rw [h] at hmoved
    cases hmoved
    rfl
  · next hmoved =>
    rw [h] at hmoved
    cases hmoved
  · next hmoved =>
    rw [h] at hmoved
    cases hmoved

theorem pass_of_stop {closing : Bool} {mode : Mode} {s rest : Text} {last : Option Event}
    (h : step closing mode s = .stop last rest) :
    pass closing mode s = ⟨last.toList.map (.between s rest), mode, rest, none⟩ := by
  rw [pass]
  split
  · next hmoved =>
    rw [h] at hmoved
    cases hmoved
  · next hmoved =>
    rw [h] at hmoved
    cases hmoved
    rfl
  · next hmoved =>
    rw [h] at hmoved
    cases hmoved

/-- These pieces are chunks of text that spell `u`. -/
inductive Spells : List Piece → Text → Prop
  | nil : Spells [] []
  | cons {pieces : List Piece} {u : Text} (raw chunk : Text) (more : Spells pieces u) :
      Spells (⟨raw, .text chunk⟩ :: pieces) (chunk ++ u)

theorem Spells.append {ps qs : List Piece} {u v : Text} (hp : Spells ps u) (hq : Spells qs v) :
    Spells (ps ++ qs) (u ++ v) := by
  induction hp with
  | nil => exact hq
  | cons raw chunk more ih =>
    rw [List.cons_append, List.append_assoc]
    exact .cons raw chunk ih

theorem Spells.singleton (raw chunk : Text) : Spells [⟨raw, .text chunk⟩] chunk := by
  have h := Spells.cons raw chunk .nil
  rwa [List.append_nil] at h

/-- Where a pass over a text halts: at its end, or at the first stray. -/
inductive Halts : Text → Text → List Text → Prop
  | done : Halts [] [] []
  | stray {t u : Text} {strays : List Text} (free : ∀ ref after, ¬ Leads ('#' :: t) ref after)
      (more : Mended t u strays) : Halts ('&' :: '#' :: t) ('&' :: '#' :: u) (t :: strays)

/-- A pass over the text `t` in front of `tail` comes to where it halts, and the
pieces it reads on the way and what it halts at make up `u`. -/
def Advances (closing : Bool) (tail t u : Text) (strays : List Text) : Prop :=
  ∃ pieces a s v, Spells pieces a ∧ u = a ++ v ∧ Halts s v strays ∧ s <:+ t ∧
    pass closing .markup (t ++ tail) = (pass closing .markup (s ++ tail)).behind pieces

theorem Advances.of_halts {closing : Bool} {tail t u : Text} {strays : List Text}
    (h : Halts t u strays) : Advances closing tail t u strays :=
  ⟨[], [], t, u, .nil, rfl, h, List.suffix_rfl, rfl⟩

theorem Advances.of_step {closing : Bool} {tail t t' u chunk : Text} {strays : List Text}
    (h : Advances closing tail t' u strays) (hsuffix : t' <:+ t)
    (hstep : step closing .markup (t ++ tail) = .take (.text chunk) .markup (t' ++ tail)) :
    Advances closing tail t (chunk ++ u) strays := by
  obtain ⟨pieces, a, s, v, hspells, rfl, hhalts, hs, hpass⟩ := h
  refine ⟨.between (t ++ tail) (t' ++ tail) (.text chunk) :: pieces, chunk ++ a, s, v,
    .cons _ chunk hspells, (List.append_assoc _ _ _).symm, hhalts, hs.trans hsuffix, ?_⟩
  rw [pass_of_take hstep, hpass]
  exact (Pass.behind_append [_] _ _).symm

end Markup

theorem Leads.suffix {s ref after : Text} (h : Leads s ref after) : after <:+ s :=
  h.spelled ▸ List.suffix_append ref after

/-- A reference ends before a tag if not earlier. -/
theorem Leads.append {s ref after tail : Text} (h : Leads s ref after)
    (htail : tail.head? = some '<') : Leads (s ++ tail) ref (after ++ tail) where
  spelled := by rw [h.spelled, List.append_assoc]
  reference := h.reference
  ended := by
    cases after with
    | nil =>
      rw [List.nil_append, htail]
      simp only [Option.all_some, continuesReference]
      split <;> rfl
    | cons c after => exact h.ended

theorem Leads.of_append {s ref after tail : Text} (h : Leads (s ++ tail) ref after)
    (htail : tail.head? = some '<') : ∃ before, Leads s ref before := by
  obtain ⟨rest, rfl⟩ := List.head?_eq_some_iff.mp htail
  rcases List.append_eq_append_iff.mp h.spelled with ⟨more, href, hrest⟩ | ⟨before, hs, hafter⟩
  · cases more with
    | nil =>
      rw [List.append_nil] at href
      exact ⟨[], by rw [href, List.append_nil], h.reference, rfl⟩
    | cons c more =>
      -- else the tag's bracket would stand in the reference
      cases (List.cons.inj hrest).1
      exact absurd (by simp [href]) (h.reference.not_mem (c := '<') (by decide) (by decide))
  · refine ⟨before, hs, h.reference, ?_⟩
    cases before with
    | nil => rfl
    | cons c before =>
      have hended := h.ended
      rwa [hafter] at hended

namespace Markup

open Text

section

variable {closing : Bool} {tail : Text} {strays : List Text}

/-- One step past a reference, with its semicolon if it has one. -/
theorem Advances.of_leads (htail : tail.head? = some '<') {s ref after t u : Text}
    (here : Leads s ref after) (hsuffix : t <:+ after)
    (hskip : skipSemicolon (after ++ tail) = t ++ tail) (h : Advances closing tail t u strays) :
    Advances closing tail ('&' :: s) ('&' :: ref ++ ';' :: u) strays := by
  have hne : after ++ tail ≠ [] := by
    intro hnil
    rw [(List.append_eq_nil_iff.mp hnil).2] at htail
    cases htail
  have hstep : step closing .markup ('&' :: s ++ tail) =
      .take (.text ('&' :: ref ++ [';'])) .markup (t ++ tail) := by
    rw [← hskip]
    exact ampersandStep_leads closing (here.append htail) hne
  have hadvances := h.of_step ((hsuffix.trans here.suffix).trans (List.suffix_cons '&' s)) hstep
  rwa [List.append_assoc, List.singleton_append] at hadvances

/-- One step past an ampersand that begins nothing. -/
theorem Advances.of_bare (htail : tail.head? = some '<') {t u : Text}
    (free : ∀ ref after, ¬ Leads t ref after) (sharp : t.head? ≠ some '#')
    (h : Advances closing tail t u strays) :
    Advances closing tail ('&' :: t) ('&' :: u) strays := by
  obtain ⟨rest, rfl⟩ := List.head?_eq_some_iff.mp htail
  have hletter : (t ++ '<' :: rest).head?.all (fun c => !c.isAlpha) = true := by
    cases t with
    | nil => rfl
    | cons c t =>
      cases hc : c.isAlpha with
      | true =>
        obtain ⟨ref, after, hleads⟩ := exists_leads_of_letter hc t
        exact absurd hleads (free ref after)
      | false => simp [hc]
  have hsharp : (t ++ '<' :: rest).head? ≠ some '#' := by
    cases t with
    | nil => exact fun h => by cases h
    | cons c t => exact sharp
  exact h.of_step (List.suffix_cons '&' t) (ampersandStep_bare closing (by simp) hletter hsharp)

/-- One step over plain characters, up to the next ampersand or the tag. -/
theorem Advances.of_plain (htail : tail.head? = some '<') {c : Char} {s u : Text}
    (hc : isPlainChar c = true)
    (h : Advances closing tail (s.dropWhile isPlainChar) u strays) :
    Advances closing tail (c :: s) (c :: s.takeWhile isPlainChar ++ u) strays := by
  have hbracket : tail.head?.all (· == '<') = true := by rw [htail]; rfl
  have hrun : ∀ d ∈ c :: s.takeWhile isPlainChar, isPlainChar d = true :=
    List.forall_mem_cons.mpr ⟨hc, List.all_eq_true.mp List.all_takeWhile⟩
  obtain ⟨htake, hdrop⟩ := takeWhile_run hrun (head?_dropWhile_plain s hbracket)
  have hspell : c :: s.takeWhile isPlainChar ++ (s.dropWhile isPlainChar ++ tail) =
      c :: s ++ tail := by
    rw [← List.append_assoc, List.cons_append, List.takeWhile_append_dropWhile]
  rw [hspell] at htake hdrop
  refine h.of_step ((List.dropWhile_suffix _).trans (List.suffix_cons c s)) ?_
  rw [← htake, ← hdrop]
  exact step_plain closing hc (s ++ tail)

end

/-- A pass over a text without tags comes to where it halts. -/
theorem advances_of_mended (closing : Bool) {tail : Text} (htail : tail.head? = some '<') :
    ∀ {t u : Text} {strays : List Text}, '<' ∉ t → Mended t u strays →
      Advances closing tail t u strays
  | [], u, strays, _, h => by
    cases h
    exact .of_halts .done
  | c :: s, u, strays, hfree, h => by
    have hrec (t : Text) (hsuffix : t <:+ s) {u : Text} (h : Mended t u strays) :
        Advances closing tail t u strays :=
      have hle := hsuffix.length_le
      advances_of_mended closing htail
        (fun hmem => hfree (List.mem_cons_of_mem c (hsuffix.subset hmem))) h
    by_cases hamp : c = '&'
    · subst hamp
      cases h with
      | char other => exact absurd rfl other
      | @closed _ ref t u _ here more =>
        have hsuffix : t <:+ s := (List.suffix_cons ';' t).trans here.suffix
        exact .of_leads htail here (List.suffix_cons ';' t) rfl (hrec t hsuffix more)
      | @opened _ ref t u _ here unclosed more =>
        refine .of_leads htail here List.suffix_rfl ?_ (hrec t here.suffix more)
        refine skipSemicolon_of_head?_ne ?_
        cases t with
        | nil =>
          rw [List.nil_append, htail]
          decide
        | cons d t => exact unclosed
      | bare free sharp more => exact .of_bare htail free sharp (hrec s List.suffix_rfl more)
      | stray free more => exact .of_halts (.stray free more)
    · have hplain : isPlainChar c = true := by
        rw [isPlainChar, Bool.and_eq_true, bne_iff_ne, bne_iff_ne]
        exact ⟨fun hc => hfree (hc ▸ List.mem_cons_self), hamp⟩
      have hrun : '&' ∉ c :: s.takeWhile isPlainChar := by
        intro hmem
        rcases List.mem_cons.mp hmem with rfl | hmem
        · exact hamp rfl
        · cases List.all_eq_true.mp List.all_takeWhile _ hmem
      obtain ⟨v, rfl, hmore⟩ := Mended.of_append (t := s.dropWhile isPlainChar) hrun
        (by rwa [List.cons_append, List.takeWhile_append_dropWhile])
      exact .of_plain htail hplain (hrec _ (List.dropWhile_suffix _) hmore)
termination_by t => t.length
decreasing_by exact Nat.lt_succ_of_le hle

end Markup

end JsxTemplate
