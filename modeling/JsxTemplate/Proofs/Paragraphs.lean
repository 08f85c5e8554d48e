import JsxTemplate.Proofs.Ampersands
import JsxTemplate.Proofs.Spans
import JsxTemplate.Proofs.Words

/-!
# The text of a paragraph

A template of one paragraph, whose text is any text without tags. Its tree holds
the mended text, its blanks collapsed, if the reader gets past the strays among
its ampersands; else the paragraph counts as unclosed. The text is as written up
to blanks just when each reference in it is closed by a semicolon.
-/

namespace JsxTemplate

open Markup (Piece Located locate Spells)

/-- A template of one paragraph with this text. -/
def paragraph (text : Text) : Text := "<template><p>" ++ text ++ "</p></template>"

/-- The tree of a paragraph that holds one text. -/
def paragraphTree (value : Text) : Element :=
  ⟨"template", [], [.element "p" [] [.text value 1] 1], 1⟩

theorem paragraphTree_inj {v w : Text} (h : paragraphTree v = paragraphTree w) : v = w := by
  have hchildren : [Node.element "p" [] [.text v 1] 1] = [.element "p" [] [.text w 1] 1] :=
    congrArg Element.children h
  simpa using hchildren

/-- The reader gets past these strays: there is none, or a single one with a
semicolon somewhere behind it. -/
def Answered (strays : List Text) : Prop := strays = [] ∨ ∃ rest, strays = [rest] ∧ ';' ∈ rest

/-! ## Reading a paragraph -/

namespace Markup

theorem pass_nil (closing : Bool) : pass closing .markup [] = ⟨[], .markup, [], none⟩ := by
  rw [pass]
  rfl

theorem read_of_passes {s rest : Text} {pieces : List Piece} {mode : Mode} {second : Pass}
    (hfirst : pass false .markup s = ⟨pieces, mode, rest, none⟩)
    (hsecond : pass true mode rest = second) (hfault : second.fault = none) :
    read s = (pieces ++ second.pieces ++ second.remainder, none) := by
  simp only [read, hfirst, hsecond, hfault]

/-- The tags in front of a paragraph's text. -/
def openings : List Piece :=
  [⟨"<template>", .opening "template" []⟩, ⟨"<p>", .opening "p" []⟩]

/-- The tags behind it. -/
def closings : List Piece :=
  [⟨"</p>", .closing "p"⟩, ⟨"</template>", .closing "template"⟩]

theorem pass_openings (s : Text) :
    pass false .markup ("<template><p>" ++ s) = (pass false .markup s).behind openings := by
  have hplain : CanonicalAttrs [] := ⟨rfl, rfl, .nil⟩
  have htemplate : Reads "<template>" ("<p>" ++ s) [⟨"<template>", .opening "template" []⟩] :=
    @reads_opening "template" [] (by decide) (by decide) hplain ("<p>" ++ s)
  have hp : Reads "<p>" s [⟨"<p>", .opening "p" []⟩] :=
    @reads_opening "p" [] (by decide) (by decide) hplain s
  exact htemplate.append hp

theorem head?_closings : ("</p></template>" : Text).head? = some '<' := by decide

theorem semicolon_not_mem_closings : ';' ∉ ("</p></template>" : Text) := by decide

theorem pass_closings (closing : Bool) :
    pass closing .markup "</p></template>" = ⟨closings, .markup, [], none⟩ := by
  cases closing <;> decide +kernel

theorem pass_paragraph (t : Text) :
    pass false .markup (paragraph t) =
      (pass false .markup (t ++ "</p></template>")).behind openings := by
  have hspelled : paragraph t = "<template><p>" ++ (t ++ "</p></template>") := by
    unfold paragraph
    exact List.append_assoc _ _ _
  rw [hspelled, pass_openings]

theorem referenceNumber?_of_free {t tail : Text} (htail : tail.head? = some '<')
    (free : ∀ ref after, ¬ Leads ('#' :: t) ref after) : referenceNumber? (t ++ tail) = none := by
  cases h : referenceNumber? (t ++ tail) with
  | none => rfl
  | some found =>
    have hleads : Leads ('#' :: t ++ tail) ('#' :: found.1) found.2 := leads_of_referenceNumber? h
    obtain ⟨before, hbefore⟩ := hleads.of_append htail
    exact absurd hbefore (free _ before)

/-- At a stray the pass stops: behind it if a semicolon follows, else before it. -/
theorem pass_stray (closing : Bool) {s : Text} (h : referenceNumber? s = none) :
    pass closing .markup ('&' :: '#' :: s) =
      if ';' ∈ s then ⟨[⟨"&#", .text "&#"⟩], .markup, s, none⟩
      else ⟨[], .markup, '&' :: '#' :: s, none⟩ := by
  have hstep : step closing .markup ('&' :: '#' :: s) = _ := ampersandStep_stray closing h
  have hbetween : Piece.between ('&' :: '#' :: s) s (.text "&#") = ⟨"&#", .text "&#"⟩ := by
    have hlength : ('&' :: '#' :: s).length - s.length = 2 := by
      rw [List.length_cons, List.length_cons]
      omega
    rw [Piece.between, hlength]
    rfl
  split
  · next hmem =>
    rw [if_pos hmem] at hstep
    rw [pass_of_stop hstep, Option.toList_some, List.map_singleton, hbetween]
  · next hmem =>
    rw [if_neg hmem] at hstep
    exact pass_of_stop hstep

/-- A pass that stands at a stray leaves something, and reads nothing but text. -/
theorem exists_rest_of_stray (closing : Bool) {t tail : Text} (htail : tail.head? = some '<')
    (free : ∀ ref after, ¬ Leads ('#' :: t) ref after) :
    ∃ pieces u rest, Spells pieces u ∧ rest ≠ [] ∧
      pass closing .markup ('&' :: '#' :: t ++ tail) = ⟨pieces, .markup, rest, none⟩ := by
  have hpass := pass_stray closing (referenceNumber?_of_free htail free)
  split at hpass
  · refine ⟨_, _, t ++ tail, .singleton "&#" "&#", ?_, hpass⟩
    intro hnil
    rw [(List.append_eq_nil_iff.mp hnil).2] at htail
    cases htail
  · exact ⟨[], [], _, .nil, List.cons_ne_nil _ _, hpass⟩

/-- A text that the reader gets through is read whole. -/
theorem read_paragraph_of_answered {t u : Text} {strays : List Text} (hfree : '<' ∉ t)
    (h : Mended t u strays) (hanswered : Answered strays) :
    ∃ pieces, Spells pieces u ∧ read (paragraph t) = (openings ++ pieces ++ closings, none) := by
  obtain ⟨pieces, a, s, v, hspells, rfl, hhalts, hsuffix, hfirst⟩ :=
    advances_of_mended false head?_closings hfree h
  cases hhalts with
  | done =>
    rw [List.nil_append, pass_closings] at hfirst
    refine ⟨pieces, by rwa [List.append_nil], ?_⟩
    rw [read_of_passes ((pass_paragraph t).trans (congrArg _ hfirst)) (pass_nil true) rfl]
    simp [Pass.behind, Pass.remainder]
  | @stray r w strays free more =>
    obtain ⟨rest, hone, hsemicolon⟩ := hanswered.resolve_left (List.cons_ne_nil _ _)
    cases hone
    have hrest : '<' ∉ r := fun hmem =>
      hfree (hsuffix.subset (List.mem_cons_of_mem _ (List.mem_cons_of_mem _ hmem)))
    -- the second pass goes on behind the stray and finds no other
    obtain ⟨others, b, s, v, hothers, rfl, hhalts, -, hsecond⟩ :=
      advances_of_mended true head?_closings hrest more
    cases hhalts
    rw [List.nil_append, pass_closings] at hsecond
    have hstray := pass_stray false (referenceNumber?_of_free head?_closings free)
    rw [if_pos (List.mem_append_left _ hsemicolon)] at hstray
    refine ⟨pieces ++ ⟨"&#", .text "&#"⟩ :: others, ?_, ?_⟩
    · rw [List.append_nil]
      exact hspells.append (.cons "&#" "&#" hothers)
    · rw [read_of_passes ((pass_paragraph t).trans (congrArg _ (hfirst.trans (congrArg _ hstray))))
        hsecond rfl]
      simp [Pass.behind, Pass.remainder]

/-- Where the reader does not get through, all it finds behind the opening tags
is text, the closing tags being part of it. -/
theorem read_paragraph_of_not_answered {t u : Text} {strays : List Text} (hfree : '<' ∉ t)
    (h : Mended t u strays) (hanswered : ¬ Answered strays) :
    ∃ pieces w, Spells pieces w ∧ pieces ≠ [] ∧
      read (paragraph t) = (openings ++ pieces, none) := by
  obtain ⟨pieces, a, s, v, hspells, rfl, hhalts, hsuffix, hfirst⟩ :=
    advances_of_mended false head?_closings hfree h
  cases hhalts with
  | done => exact absurd (.inl rfl) hanswered
  | @stray r w strays free more =>
    have hstray := pass_stray false (referenceNumber?_of_free head?_closings free)
    by_cases hsemicolon : ';' ∈ r
    · -- the second pass goes on behind the stray, up to the next one
      rw [if_pos (List.mem_append_left _ hsemicolon)] at hstray
      have hrest : '<' ∉ r := fun hmem =>
        hfree (hsuffix.subset (List.mem_cons_of_mem _ (List.mem_cons_of_mem _ hmem)))
      obtain ⟨others, b, s, v, hothers, rfl, hhalts, -, hsecond⟩ :=
        advances_of_mended true head?_closings hrest more
      cases hhalts with
      | done => exact absurd (.inr ⟨r, rfl, hsemicolon⟩) hanswered
      | stray free more =>
        obtain ⟨last, c, rest, hlast, hne, hstop⟩ := exists_rest_of_stray true head?_closings free
        have hall := hspells.append (.cons "&#" "&#" (hothers.append (hlast.append
          (.singleton rest rest))))
        refine ⟨_, _, hall, by simp, ?_⟩
        rw [read_of_passes ((pass_paragraph t).trans
          (congrArg _ (hfirst.trans (congrArg _ hstray)))) (hsecond.trans (congrArg _ hstop)) rfl]
        cases rest with
        | nil => exact absurd rfl hne
        | cons d rest => simp [Pass.behind, Pass.remainder]
    · -- both passes stop before the stray
      have hnone : ';' ∉ r ++ ("</p></template>" : Text) := fun hmem =>
        (List.mem_append.mp hmem).elim hsemicolon semicolon_not_mem_closings
      have hagain := pass_stray true (referenceNumber?_of_free head?_closings free)
      rw [if_neg hnone] at hstray hagain
      refine ⟨_, _, hspells.append (.singleton ('&' :: '#' :: (r ++ ("</p></template>" : Text)))
        ('&' :: '#' :: (r ++ ("</p></template>" : Text)))), by simp, ?_⟩
      rw [read_of_passes ((pass_paragraph t).trans
        (congrArg _ (hfirst.trans (congrArg _ hstray)))) hagain rfl]
      simp [Pass.behind, Pass.remainder]

end Markup

/-! ## The tree of a paragraph -/

namespace Growth

theorem handleAll_append {g g' : Growth} {es : List Located} (h : g.handleAll es = .ok g')
    (fs : List Located) : g.handleAll (es ++ fs) = g'.handleAll fs := by
  induction es generalizing g with
  | nil =>
    cases h
    rfl
  | cons e es ih =>
    rw [handleAll] at h
    rw [List.cons_append, handleAll]
    cases hstep : g.handle e with
    | error f =>
      rw [hstep] at h
      cases h
    | ok next =>
      rw [hstep] at h
      exact ih h

theorem addText_append (g : Growth) (line later : Nat) (u v : Text) :
    (g.addText line u).addText later v = g.addText line (u ++ v) := by
  obtain ⟨stack, placed, pending⟩ := g
  cases pending with
  | none => rfl
  | some found => simp [addText]

/-- Chunks of text are collected, on the line of the first. -/
theorem handleAll_spells {pieces : List Piece} {u : Text} (h : Spells pieces u)
    (hne : pieces ≠ []) (g : Growth) (line : Nat) :
    g.handleAll (locate line pieces) = .ok (g.addText line u) := by
  induction h generalizing g line with
  | nil => exact absurd rfl hne
  | @cons pieces u raw chunk more ih =>
    cases pieces with
    | nil =>
      cases more
      rw [List.append_nil]
      rfl
    | cons p pieces =>
      rw [← addText_append g line (line + raw.count '\n')]
      exact ih (List.cons_ne_nil _ _) (g.addText line chunk) _

theorem not_void_template : isVoid "template" = false := by decide

theorem not_void_p : isVoid "p" = false := by decide

/-- The tree behind the opening tags of a paragraph, with a text that has not
ended. -/
def inParagraph (text : Text) : Growth where
  stack := [⟨"p", [], [], 1⟩, ⟨"template", [], [], 1⟩]
  pending := some (1, text)

theorem handleAll_openings {pieces : List Piece} {u : Text} (h : Spells pieces u)
    (hne : pieces ≠ []) (behind : List Piece) :
    ∃ later, ({} : Growth).handleAll (locate 1 (Markup.openings ++ pieces ++ behind)) =
      (inParagraph u).handleAll (locate later behind) := by
  obtain ⟨later, hlocate⟩ := locate_append 1 pieces behind
  refine ⟨later, ?_⟩
  have hlines : locate 1 (Markup.openings ++ pieces ++ behind) =
      ⟨1, .opening "template" []⟩ :: ⟨1, .opening "p" []⟩ :: locate 1 (pieces ++ behind) := by
    simp [Markup.openings, locate]
  have hopened : ({} : Growth).handleAll [⟨1, .opening "template" []⟩, ⟨1, .opening "p" []⟩] =
      .ok { stack := [⟨"p", [], [], 1⟩, ⟨"template", [], [], 1⟩] } := by
    simp only [handleAll, handle, not_void_template, not_void_p, Bool.false_eq_true, ↓reduceIte]
    rfl
  rw [hlines, hlocate]
  exact (handleAll_append hopened _).trans (handleAll_append (handleAll_spells h hne _ 1) _)

theorem flush_inParagraph {u : Text} (h : u.collapse ≠ []) :
    (inParagraph u).flush =
      { stack := [⟨"p", [], [.text u.collapse 1], 1⟩, ⟨"template", [], [], 1⟩] } := by
  obtain ⟨c, v, hv⟩ := List.exists_cons_of_ne_nil h
  simp only [flush, inParagraph, hv]
  rfl

/-- The closing tags behind a text end the paragraph and the template. -/
theorem handleAll_closings {u : Text} (h : u.collapse ≠ []) (line : Nat) :
    (inParagraph u).handleAll (locate line Markup.closings) =
      .ok { placed := [(paragraphTree u.collapse).toNode] } := by
  simp only [Markup.closings, locate, handleAll, handle, flush_inParagraph h, not_void_p,
    not_void_template, Bool.false_eq_true, ↓reduceIte]
  rfl

end Growth

theorem parse_of_nodes {file content : Text} {root : Element} (hname : root.name = "template")
    (h : documentNodes file content = .ok [root.toNode]) :
    Template.parse file content =
      ([.parsed file 0 root.children.length], .ok ⟨root, [], file⟩) := by
  rw [Template.parse, h]
  exact gather_template file hname

/-- A text that the reader gets through is the text of the paragraph. -/
theorem parse_paragraph_of_answered {t u : Text} {strays : List Text} (hfree : '<' ∉ t)
    (h : Mended t u strays) (hanswered : Answered strays) (hfilled : u.blank = false)
    (file : Text) :
    Template.parse file (paragraph t) =
      ([.parsed file 0 1], .ok ⟨paragraphTree u.collapse, [], file⟩) := by
  obtain ⟨pieces, hspells, hread⟩ := Markup.read_paragraph_of_answered hfree h hanswered
  have hne : pieces ≠ [] := by
    rintro rfl
    cases hspells
    cases hfilled
  have hcollapse := Text.collapse_ne_nil hfilled
  obtain ⟨later, hopened⟩ := Growth.handleAll_openings hspells hne Markup.closings
  rw [Growth.handleAll_closings hcollapse] at hopened
  refine @parse_of_nodes file _ (paragraphTree u.collapse) rfl ?_
  simp only [documentNodes, hread, hopened]
  rfl

/-- Where the reader does not get through, the paragraph is never closed. -/
theorem parse_paragraph_of_not_answered {t u : Text} {strays : List Text} (hfree : '<' ∉ t)
    (h : Mended t u strays) (hanswered : ¬ Answered strays) (file : Text) :
    Template.parse file (paragraph t) = ([], .error (.template
      (.unreadable (.nesting (.unclosed "p" 1)) (some file) (some 1)))) := by
  obtain ⟨pieces, w, hspells, hne, hread⟩ :=
    Markup.read_paragraph_of_not_answered hfree h hanswered
  obtain ⟨later, hopened⟩ := Growth.handleAll_openings hspells hne []
  rw [List.append_nil] at hopened
  have hfinish : (Growth.inParagraph w).finish = .error (.unclosed "p" 1) := by
    rw [Growth.finish_eq]
    rfl
  have hdocument : documentNodes file (paragraph t) = .error (.template
      (.unreadable (.nesting (.unclosed "p" 1)) (some file) (some 1))) := by
    simp only [documentNodes, hread, hopened, locate, Growth.handleAll, hfinish]
    rfl
  rw [Template.parse, hdocument]

/-! ## Texts that stay as written -/

/-- Every reference in a text is closed by a semicolon. -/
def ReferencesClosed (t : Text) : Prop :=
  ∀ s ref after, '&' :: s <:+ t → Leads s ref after → after.head? = some ';'

/-- At most one reference stands behind an ampersand. -/
theorem Leads.unique {s ref ref' after after' : Text} (h : Leads s ref after)
    (h' : Leads s ref' after') : after = after' := by
  have htail : (['<'] : Text).head? = some '<' := rfl
  -- the reader takes both for the same text
  have hstep := Markup.ampersandStep_leads true (h.append htail) (by simp)
  rw [Markup.ampersandStep_leads true (h'.append htail) (by simp), Markup.Step.take.injEq,
    Markup.Event.text.injEq] at hstep
  have href : ref' = ref := by simpa using hstep.1
  subst href
  exact List.append_cancel_left (h.spelled.symm.trans h'.spelled)

theorem referencesClosed_append (run : Text) (hrun : '&' ∉ run) (t : Text) :
    ReferencesClosed (run ++ t) ↔ ReferencesClosed t := by
  constructor
  · intro h s ref after hs hleads
    exact h s ref after (hs.trans (List.suffix_append run t)) hleads
  · intro h s ref after hs hleads
    exact h s ref after (Part.suffix_of_not_mem hrun hs) hleads

theorem referencesClosed_ampersand (s : Text) :
    ReferencesClosed ('&' :: s) ↔
      (∀ ref after, Leads s ref after → after.head? = some ';') ∧ ReferencesClosed s := by
  constructor
  · intro h
    exact ⟨fun ref after => h s ref after List.suffix_rfl,
      fun t ref after ht => h t ref after (ht.trans (List.suffix_cons '&' s))⟩
  · rintro ⟨hhere, hmore⟩ t ref after ht hleads
    rcases List.suffix_cons_iff.mp ht with heq | ht
    · cases heq
      exact hhere ref after hleads
    · exact hmore t ref after ht hleads

/-- The number of characters that are no blanks. -/
def ink (s : Text) : Nat := s.countP fun c => !Text.isBlank c

@[simp] theorem ink_append (s t : Text) : ink (s ++ t) = ink s + ink t := List.countP_append

theorem ink_collapse (s : Text) : ink s.collapse = ink s := by
  rw [ink, ink, List.countP_eq_length_filter, List.countP_eq_length_filter, Text.filter_collapse]

theorem ink_eq_zero_iff {s : Text} : ink s = 0 ↔ s.blank = true := by
  rw [ink, List.countP_eq_zero, Text.blank_iff]
  simp

/-- `u` is `t` as it stands, each reference in it being closed, or it has more in
it. -/
def KeptOrGrown (t u : Text) : Prop :=
  u = t ∧ ReferencesClosed t ∨ ink t < ink u ∧ ¬ ReferencesClosed t

theorem KeptOrGrown.append {t u : Text} (h : KeptOrGrown t u) (run : Text)
    (hclosed : ReferencesClosed (run ++ t) ↔ ReferencesClosed t) :
    KeptOrGrown (run ++ t) (run ++ u) := by
  rcases h with ⟨rfl, h⟩ | ⟨hlt, h⟩
  · exact .inl ⟨rfl, hclosed.mpr h⟩
  · refine .inr ⟨?_, fun hall => h (hclosed.mp hall)⟩
    rw [ink_append, ink_append]
    omega

/-- Mending adds a semicolon to each reference that has none, and nothing else. -/
theorem Mended.keptOrGrown {t u : Text} {strays : List Text} (h : Mended t u strays) :
    KeptOrGrown t u := by
  induction h with
  | nil => exact .inl ⟨rfl, fun s ref after hs => absurd (List.suffix_nil.mp hs) (by simp)⟩
  | @char c t u strays other more ih =>
    have hrun : '&' ∉ [c] := by simpa using Ne.symm other
    exact ih.append [c] (referencesClosed_append [c] hrun t)
  | @closed s ref t u strays here more ih =>
    have hrun : '&' ∉ ref ++ [';'] := by
      have href := here.reference.not_mem (c := '&') (by decide) (by decide)
      simp [href]
    have hspelled : s = ref ++ [';'] ++ t := by simp [here.spelled]
    have hclosed : ReferencesClosed ('&' :: s) ↔ ReferencesClosed t := by
      rw [referencesClosed_ampersand, and_iff_right, hspelled, referencesClosed_append _ hrun]
      intro ref' after' hleads
      rw [← here.unique hleads]
      rfl
    have hkept := ih.append ('&' :: (ref ++ [';'])) (by rwa [List.cons_append, ← hspelled])
    simpa [hspelled] using hkept
  | @opened s ref t u strays here unclosed more ih =>
    refine .inr ⟨?_, fun hall => unclosed (hall s ref t List.suffix_rfl here)⟩
    have hle : ink t ≤ ink u := by
      rcases ih with ⟨rfl, -⟩ | ⟨hlt, -⟩
      · exact Nat.le_refl _
      · exact Nat.le_of_lt hlt
    have ht : ink ('&' :: s) = ink ('&' :: ref) + ink t := by
      rw [here.spelled, ← ink_append, List.cons_append]
    have hu : ink ('&' :: ref ++ ';' :: u) = ink ('&' :: ref) + (ink [';'] + ink u) := by
      rw [ink_append, ← ink_append [';'] u, List.singleton_append]
    have hsemicolon : ink [';'] = 1 := by decide
    omega
  | @bare t u strays free sharp more ih =>
    have hclosed := (referencesClosed_ampersand t).trans
      (and_iff_right fun ref after hleads => absurd hleads (free ref after))
    exact ih.append ['&'] hclosed
  | @stray t u strays free more ih =>
    have hclosed := (referencesClosed_ampersand ('#' :: t)).trans
      (and_iff_right fun ref after hleads => absurd hleads (free ref after))
    exact ih.append ['&', '#'] (hclosed.trans (referencesClosed_append ['#'] (by decide) t))

theorem Mended.blank_eq_false {t u : Text} {strays : List Text} (h : Mended t u strays)
    (hfilled : t.blank = false) : u.blank = false := by
  have hink : ink t ≠ 0 := fun hzero => by
    rw [ink_eq_zero_iff.mp hzero] at hfilled
    cases hfilled
  rw [← Bool.not_eq_true, ← ink_eq_zero_iff]
  rcases h.keptOrGrown with ⟨rfl, -⟩ | ⟨hlt, -⟩
  · exact hink
  · omega

/-- Up to blanks a text is as written just when its references are closed. -/
theorem Mended.collapse_eq_iff {t u : Text} {strays : List Text} (h : Mended t u strays) :
    u.collapse = t.collapse ↔ ReferencesClosed t := by
  rcases h.keptOrGrown with ⟨rfl, hclosed⟩ | ⟨hlt, hopen⟩
  · exact ⟨fun _ => hclosed, fun _ => rfl⟩
  · refine ⟨fun heq => ?_, fun hclosed => absurd hclosed hopen⟩
    have hink := congrArg ink heq
    rw [ink_collapse, ink_collapse] at hink
    omega

/-- What becomes of a paragraph's text. The reader mends it, and if it gets past
the strays the tree holds what it made of it; else the template is refused. The
tree holds the text as written just when each reference in it is closed. -/
theorem paragraph_text (file t : Text) (hbracket : '<' ∉ t) (hfilled : t.blank = false) :
    (∃ u strays, Mended t u strays) ∧
    ∀ u strays, Mended t u strays →
      (Answered strays → Template.parse file (paragraph t) =
        ([.parsed file 0 1], .ok ⟨paragraphTree u.collapse, [], file⟩)) ∧
      (¬ Answered strays → Template.parse file (paragraph t) = ([], .error (.template
        (.unreadable (.nesting (.unclosed "p" 1)) (some file) (some 1))))) ∧
      (Template.parse file (paragraph t) =
          ([.parsed file 0 1], .ok ⟨paragraphTree t.collapse, [], file⟩) ↔
        Answered strays ∧ ReferencesClosed t) := by
  refine ⟨exists_mended t, fun u strays h => ?_⟩
  have hmade := parse_paragraph_of_answered hbracket h
  have hrefused := parse_paragraph_of_not_answered hbracket h
  have hsame := h.collapse_eq_iff
  refine ⟨fun hanswered => hmade hanswered (h.blank_eq_false hfilled) file,
    fun hanswered => hrefused hanswered file, ?_, ?_⟩
  · intro hparse
    by_cases hanswered : Answered strays
    · rw [hmade hanswered (h.blank_eq_false hfilled)] at hparse
      have hroot := (Template.mk.inj (Except.ok.inj (Prod.mk.inj hparse).2)).1
      exact ⟨hanswered, hsame.mp (paragraphTree_inj hroot)⟩
    · rw [hrefused hanswered] at hparse
      cases hparse
  · rintro ⟨hanswered, hclosed⟩
    rw [hmade hanswered (h.blank_eq_false hfilled), hsame.mpr hclosed]

theorem not_leads_sharp {c : Char} {s : Text} (hx : c ≠ 'x' ∧ c ≠ 'X') (hdigit : c.isDigit = false)
    (ref after : Text) : ¬ Leads ('#' :: c :: s) ref after := by
  rintro ⟨hspelled, href, -⟩
  cases href with
  | @hex mark run marked filled digits =>
    cases (List.cons.inj (List.cons.inj hspelled).2).1
    exact marked.elim hx.1 hx.2
  | @decimal run filled digits =>
    obtain ⟨d, run, rfl⟩ := List.exists_cons_of_ne_nil filled
    cases (List.cons.inj (List.cons.inj hspelled).2).1
    rw [List.all_cons, hdigit] at digits
    cases digits
  | @named d run letter chars =>
    cases (List.cons.inj hspelled).1
    cases letter

/-- A text with a reference that is not closed and a stray with a semicolon
behind it. -/
def labText : Text := ['R', '&', 'D', ' ', '&', '#', ' ', ';']

theorem labText_mended :
    Mended labText ['R', '&', 'D', ';', ' ', '&', '#', ' ', ';'] [[' ', ';']] := by
  have hlead : Leads ['D', ' ', '&', '#', ' ', ';'] ['D'] [' ', '&', '#', ' ', ';'] :=
    ⟨rfl, .named (by decide) (by decide), by decide⟩
  refine .char (by decide) (.opened hlead (by decide) (.char (by decide) ?_))
  refine .stray (not_leads_sharp (by decide) (by decide)) ?_
  exact .char (by decide) (.char (by decide) .nil)

theorem labText_read :
    '<' ∉ labText ∧ labText.blank = false ∧
      Template.parse "lab.html" (paragraph labText) =
        ([.parsed "lab.html" 0 1], .ok ⟨paragraphTree "R&D; &# ;", [], "lab.html"⟩) := by
  have hbracket : '<' ∉ labText := by decide
  have hfilled : labText.blank = false := by decide
  have hanswered : Answered [[' ', ';']] := .inr ⟨_, rfl, by decide⟩
  have hparse := ((paragraph_text "lab.html" labText hbracket hfilled).2 _ _ labText_mended).1
    hanswered
  exact ⟨hbracket, hfilled, hparse⟩

/-- The name of a company is not kept: a semicolon is added to it. And a stray
with no semicolon behind it makes the template unreadable. -/
theorem company_changed :
    '<' ∉ ['A', 'T', '&', 'T'] ∧ Text.blank ['A', 'T', '&', 'T'] = false ∧
    Template.parse "co.html" (paragraph ['A', 'T', '&', 'T']) =
      ([.parsed "co.html" 0 1], .ok ⟨paragraphTree ['A', 'T', '&', 'T', ';'], [], "co.html"⟩) ∧
    Text.collapse ['A', 'T', '&', 'T'] ≠ ['A', 'T', '&', 'T', ';'] ∧
    Template.parse "co.html" (paragraph ['&', '#', '!']) = ([], .error (.template
      (.unreadable (.nesting (.unclosed "p" 1)) (some "co.html") (some 1)))) := by
  have hname : Mended ['A', 'T', '&', 'T'] ['A', 'T', '&', 'T', ';'] [] := by
    have hlead : Leads ['T'] ['T'] [] := ⟨rfl, .named (by decide) (by decide), rfl⟩
    exact .char (by decide) (.char (by decide) (.opened hlead (by decide) .nil))
  have hstray : Mended ['&', '#', '!'] ['&', '#', '!'] [['!']] :=
    .stray (not_leads_sharp (by decide) (by decide)) (.char (by decide) .nil)
  have hunanswered : ¬ Answered [['!']] := by
    rintro (hnil | ⟨rest, hrest, hmem⟩)
    · cases hnil
    · cases hrest
      exact absurd hmem (by decide)
  exact ⟨by decide, by decide,
    parse_paragraph_of_answered (by decide) hname (.inl rfl) (by decide) "co.html", by decide,
    parse_paragraph_of_not_answered (by decide) hstray hunanswered "co.html"⟩

end JsxTemplate
