import JsxTemplate.Markup.Declaration
import JsxTemplate.Markup.Tag

/-!
# Reading markup

A template is read in two passes. The first stops at the first construct that
the text may not have finished; the second goes on from there, knowing that
nothing follows, takes what is still unfinished for text, and when it has to
stop hands over all that is left as one text.
-/

namespace JsxTemplate.Markup

open Text

/-- Where the reader is: in ordinary markup, or in the raw text of an element,
which only that element's closing tag ends. -/
inductive Mode where
  | markup
  | raw (name : Text)
deriving DecidableEq, Repr

/-- The elements that hold raw text. -/
def rawTextNames : List String := ["script", "style"]

/-- The mode after an event. -/
def Mode.after : Event → Mode
  | .opening name _ => if rawTextNames.any (·.toList = name) then .raw name else .markup
  | _ => .markup

/-- One move of the reader. -/
inductive Step where
  /-- A piece is read, and `rest` is left to read. -/
  | take (event : Event) (mode : Mode) (rest : Text)
  /-- Nothing more is read in this pass, but perhaps a last event. -/
  | stop (last : Option Event) (rest : Text)
  | fault (f : Fault)
deriving DecidableEq, Repr

/-- The closing tag of the element `name`, in any case and with blanks around
the name. -/
def rawEnd? (name : Text) : Text → Option Text
  | '<' :: '/' :: s =>
    let s := trimStart s
    if lower (s.take name.length) = name then after? ">" (trimStart (s.drop name.length)) else none
  | _ => none

/-- Moves through raw text: first the text before the closing tag, then the tag. -/
def rawStep (name s : Text) : Step :=
  match search (rawEnd? name) s with
  | none => .stop none s
  | some ([], rest) => .take (.closing name) .markup rest
  | some (before, _) => .take (.text before) (.raw name) (s.drop before.length)

/-- The text that an unfinished construct amounts to when nothing follows it:
up to the next `>`, else up to the next `<`, else its bracket alone. `s` is
what stands after the bracket. -/
def giveUp (s : Text) : Step :=
  match cut? ">" s with
  | some (inner, rest) => .take (.text ('<' :: inner ++ ['>'])) .markup rest
  | none =>
    if '<' ∈ s then .take (.text ('<' :: s.takeWhile (· != '<'))) .markup (s.dropWhile (· != '<'))
    else .take (.text ['<']) .markup s

/-- Reads what follows a bracket, if it begins markup at all. -/
def readMarkup : Text → Option Reading
  | [] => none
  | '/' :: s => some (readClosing s)
  | '!' :: s => some (readDeclaration s)
  | '?' :: s => some (readUntil (after? ">") .silent s)
  | c :: s => if c.isAlpha then some (readOpening (c :: s)) else none

/-- Moves past an angle bracket; `s` is what stands after it. -/
def bracketStep (closing : Bool) (s : Text) : Step :=
  match readMarkup s with
  | some (.done event rest) => .take event (Mode.after event) rest
  | some (.fault f) => .fault f
  | some .unfinished => if closing then giveUp s else .stop none ('<' :: s)
  | none => if s = [] then .stop none ['<'] else .take (.text ['<']) .markup s

/-- The digits at the start of a text and what follows them, if that is more
than nothing and no hexadecimal digit. -/
def digits? (isDigit : Char → Bool) (s : Text) : Option (Text × Text) :=
  match s.takeWhile isDigit, s.dropWhile isDigit with
  | _ :: _, c :: rest => if isHexDigit c then none else some (s.takeWhile isDigit, c :: rest)
  | _, _ => none

/-- The number of a complete reference, and what follows it. -/
def referenceNumber? : Text → Option (Text × Text)
  | 'x' :: s => (digits? isHexDigit s).map fun (number, rest) => ('x' :: number, rest)
  | 'X' :: s => (digits? isHexDigit s).map fun (number, rest) => ('X' :: number, rest)
  | s => digits? Char.isDigit s

/-- A character that continues the name of a reference. -/
def isReferenceChar (c : Char) : Bool := c.isAlphanum || c == '-' || c == '.'

/-- The name of a reference and what follows it. At the end of the text the
name has to stop before a dash or a dot. -/
def referenceName? (s : Text) : Option (Text × Text) :=
  match s.dropWhile isReferenceChar with
  | c :: rest => some (s.takeWhile isReferenceChar, c :: rest)
  | [] => cutLast? (fun c => c == '-' || c == '.') s

/-- Moves past an ampersand; `s` is what stands after it. References stay
encoded. One that is no reference, or may not be complete, ends the pass. -/
def ampersandStep (closing : Bool) (s : Text) : Step :=
  match s with
  | [] => .stop none ['&']
  | '#' :: t =>
    match referenceNumber? t with
    | some (number, rest) => .take (.text ("&#" ++ number ++ ";")) .markup (skipSemicolon rest)
    | none => if ';' ∈ t then .stop (some (.text "&#")) t else .stop none ('&' :: s)
  | c :: t =>
    if c.isAlpha then
      match referenceName? (c :: t) with
      | some (name, rest) => .take (.text ('&' :: name ++ [';'])) .markup (skipSemicolon rest)
      | none => if closing && t.isEmpty then .stop (some .silent) s else .stop none ('&' :: s)
    else .take (.text ['&']) .markup s

/-- A character of plain text. -/
def isPlainChar (c : Char) : Bool := c != '<' && c != '&'

/-- The next move; `closing` says that nothing follows the text. -/
def step (closing : Bool) (mode : Mode) (s : Text) : Step :=
  match mode, s with
  | _, [] => .stop none []
  | .raw name, s => rawStep name s
  | .markup, '<' :: s => bracketStep closing s
  | .markup, '&' :: s => ampersandStep closing s
  | .markup, s => .take (.text (s.takeWhile isPlainChar)) .markup (s.dropWhile isPlainChar)

theorem length_lt_of_rawEnd? {name s rest : Text} (h : rawEnd? name s = some rest) :
    rest.length < s.length := by
  unfold rawEnd? at h
  split at h
  · next t =>
    simp only at h
    split at h
    · have hrest : rest <:+ t := (suffix_of_after? h).trans ((List.dropWhile_suffix _).trans
        ((List.drop_suffix _ _).trans (List.dropWhile_suffix _)))
      have := hrest.length_le
      simp only [List.length_cons]
      omega
    · simp at h
  · simp at h

theorem suffix_of_rawEnd? {name s rest : Text} (h : rawEnd? name s = some rest) : rest <:+ s := by
  unfold rawEnd? at h
  split at h
  · simp only at h
    split at h
    · exact ((suffix_of_after? h).trans ((List.dropWhile_suffix _).trans
        ((List.drop_suffix _ _).trans (List.dropWhile_suffix _)))).trans
          ((List.suffix_cons _ _).trans (List.suffix_cons _ _))
    · simp at h
  · simp at h

/-- What a move leaves is an end of what it started from. -/
def Step.Within (s : Text) : Step → Prop
  | .take _ _ rest => rest <:+ s
  | .stop _ rest => rest <:+ s
  | .fault _ => True

theorem rawStep_within (name s : Text) : (rawStep name s).Within s := by
  unfold rawStep
  split
  · exact List.suffix_rfl
  · next rest h =>
    obtain ⟨here, hs, hr⟩ := eq_append_of_search h
    exact hs ▸ suffix_of_rawEnd? hr
  · exact List.drop_suffix _ _

theorem giveUp_within (s : Text) : (giveUp s).Within s := by
  unfold giveUp
  split
  · next inner rest h =>
    exact (eq_append_of_cut? h).symm ▸ List.suffix_append _ _
  · split
    · exact List.dropWhile_suffix _
    · exact List.suffix_rfl

theorem suffix_of_readMarkup {e : Event} {s rest : Text} (h : readMarkup s = some (.done e rest)) :
    rest <:+ s := by
  unfold readMarkup at h
  split at h
  · simp at h
  · exact (suffix_of_readClosing (Option.some.inj h)).trans (List.suffix_cons _ _)
  · exact (suffix_of_readDeclaration (Option.some.inj h)).trans (List.suffix_cons _ _)
  · exact (suffix_of_readUntil suffix_of_after? (Option.some.inj h)).trans (List.suffix_cons _ _)
  · split at h
    · exact suffix_of_readOpening (Option.some.inj h)
    · simp at h

/-- A move past a bracket either stops there or leaves an end of what follows. -/
theorem bracketStep_within (closing : Bool) (s : Text) :
    bracketStep closing s = .stop none ('<' :: s) ∨ (bracketStep closing s).Within s := by
  unfold bracketStep
  split
  · next h => exact Or.inr (suffix_of_readMarkup h)
  · exact Or.inr trivial
  · split
    · exact Or.inr (giveUp_within s)
    · exact Or.inl rfl
  · split
    · next h => exact Or.inl (h ▸ rfl)
    · exact Or.inr List.suffix_rfl

theorem suffix_of_digits? {isDigit : Char → Bool} {s number rest : Text}
    (h : digits? isDigit s = some (number, rest)) : rest <:+ s := by
  unfold digits? at h
  split at h
  · next hd =>
    split at h
    · simp at h
    · simp only [Option.some.injEq, Prod.mk.injEq] at h
      rw [← h.2, ← hd]
      exact List.dropWhile_suffix _
  · simp at h

theorem suffix_of_referenceNumber? {s number rest : Text}
    (h : referenceNumber? s = some (number, rest)) : rest <:+ s := by
  unfold referenceNumber? at h
  split at h
  · simp only [Option.map_eq_some_iff, Prod.mk.injEq, Prod.exists] at h
    obtain ⟨_, _, hd, _, rfl⟩ := h
    exact (suffix_of_digits? hd).trans (List.suffix_cons _ _)
  · simp only [Option.map_eq_some_iff, Prod.mk.injEq, Prod.exists] at h
    obtain ⟨_, _, hd, _, rfl⟩ := h
    exact (suffix_of_digits? hd).trans (List.suffix_cons _ _)
  · exact suffix_of_digits? h

theorem suffix_of_referenceName? {s name rest : Text}
    (h : referenceName? s = some (name, rest)) : rest <:+ s := by
  unfold referenceName? at h
  split at h
  · next hd =>
    simp only [Option.some.injEq, Prod.mk.injEq] at h
    rw [← h.2, ← hd]
    exact List.dropWhile_suffix _
  · exact append_of_cutLast? h ▸ List.suffix_append _ _

/-- A move past an ampersand either stops there or leaves an end of what
follows. -/
theorem ampersandStep_within (closing : Bool) (s : Text) :
    ampersandStep closing s = .stop none ('&' :: s) ∨ (ampersandStep closing s).Within s := by
  unfold ampersandStep
  split
  · exact Or.inl rfl
  · next t =>
    split
    · next h =>
      exact Or.inr (((skipSemicolon_suffix _).trans (suffix_of_referenceNumber? h)).trans
        (List.suffix_cons _ _))
    · split
      · exact Or.inr (List.suffix_cons _ _)
      · exact Or.inl rfl
  · next c t _ =>
    split
    · split
      · next h =>
        exact Or.inr ((skipSemicolon_suffix _).trans (suffix_of_referenceName? h))
      · split
        · exact Or.inr List.suffix_rfl
        · exact Or.inl rfl
    · exact Or.inr List.suffix_rfl

theorem step_within (closing : Bool) (mode : Mode) (s : Text) :
    (step closing mode s).Within s := by
  unfold step
  split
  · exact List.suffix_rfl
  · exact rawStep_within _ _
  · next s =>
    rcases bracketStep_within closing s with h | h
    · rw [h]
      exact List.suffix_rfl
    · revert h
      cases bracketStep closing s with
      | take _ _ rest => exact fun h => h.trans (List.suffix_cons _ _)
      | stop _ rest => exact fun h => h.trans (List.suffix_cons _ _)
      | fault _ => exact fun h => h
  · next s =>
    rcases ampersandStep_within closing s with h | h
    · rw [h]
      exact List.suffix_rfl
    · revert h
      cases ampersandStep closing s with
      | take _ _ rest => exact fun h => h.trans (List.suffix_cons _ _)
      | stop _ rest => exact fun h => h.trans (List.suffix_cons _ _)
      | fault _ => exact fun h => h
  · exact List.dropWhile_suffix _

theorem length_lt_of_rawStep {name : Text} {mode : Mode} {e : Event} {s rest : Text}
    (h : rawStep name s = .take e mode rest) : rest.length < s.length := by
  unfold rawStep at h
  split at h
  · simp at h
  · next r hs =>
    obtain ⟨here, rfl, hr⟩ := eq_append_of_search hs
    simp only [Step.take.injEq] at h
    rw [← h.2.2]
    exact length_lt_of_rawEnd? hr
  · next before r hne hs =>
    obtain ⟨here, rfl, -⟩ := eq_append_of_search hs
    simp only [Step.take.injEq, List.drop_left] at h
    have := List.length_pos_iff.mpr hne
    rw [← h.2.2, List.length_append]
    omega

theorem length_lt_of_plain {s : Text} (hnil : s ≠ []) (hlt : ∀ t, s ≠ '<' :: t)
    (hamp : ∀ t, s ≠ '&' :: t) : (s.dropWhile isPlainChar).length < s.length := by
  cases s with
  | nil => exact absurd rfl hnil
  | cons c t =>
    have hplain : isPlainChar c = true := by
      simp only [isPlainChar, Bool.and_eq_true, bne_iff_ne]
      exact ⟨fun hc => hlt t (hc ▸ rfl), fun hc => hamp t (hc ▸ rfl)⟩
    have := (List.dropWhile_suffix isPlainChar (l := t)).length_le
    rw [List.dropWhile_cons_of_pos hplain, List.length_cons]
    omega

/-- Every move that reads a piece reads at least one character. -/
theorem length_lt_of_step {closing : Bool} {mode mode' : Mode} {e : Event} {s rest : Text}
    (h : step closing mode s = .take e mode' rest) : rest.length < s.length := by
  unfold step at h
  split at h
  · simp at h
  · exact length_lt_of_rawStep h
  · next t =>
    rcases bracketStep_within closing t with hb | hb
    · rw [h] at hb
      simp at hb
    · rw [h] at hb
      have := List.IsSuffix.length_le hb
      simp only [List.length_cons]
      omega
  · next t =>
    rcases ampersandStep_within closing t with hb | hb
    · rw [h] at hb
      simp at hb
    · rw [h] at hb
      have := List.IsSuffix.length_le hb
      simp only [List.length_cons]
      omega
  · next hnil hlt hamp =>
    simp only [Step.take.injEq] at h
    rw [← h.2.2]
    exact length_lt_of_plain hnil hlt hamp

/-- The piece that was read between two points of a text. -/
def Piece.between (s rest : Text) (event : Event) : Piece :=
  ⟨s.take (s.length - rest.length), event⟩

/-- One pass over a text: the pieces read, and where and why it ended. -/
structure Pass where
  pieces : List Piece
  mode : Mode
  rest : Text
  fault : Option Fault
deriving DecidableEq, Repr

/-- Moves until the pass stops. -/
def pass (closing : Bool) (mode : Mode) (s : Text) : Pass :=
  match _moved : step closing mode s with
  | .take event mode rest =>
    let more := pass closing mode rest
    { more with pieces := .between s rest event :: more.pieces }
  | .stop last rest => ⟨last.toList.map (.between s rest), mode, rest, none⟩
  | .fault f => ⟨[], mode, s, some f⟩
termination_by s.length
decreasing_by exact length_lt_of_step _moved

/-- What a closing pass has left: one text, unless it is raw text that never
ended, which is dropped. -/
def Pass.remainder (p : Pass) : List Piece :=
  match p.rest, p.mode with
  | [], _ => []
  | rest, .markup => [⟨rest, .text rest⟩]
  | rest, .raw _ => [⟨rest, .silent⟩]

/-- The pieces of a text in order, up to a declaration that the reader gives up
on if there is one. -/
def read (s : Text) : List Piece × Option Fault :=
  let first := pass false .markup s
  match first.fault with
  | some f => (first.pieces, some f)
  | none =>
    let second := pass true first.mode first.rest
    match second.fault with
    | some f => (first.pieces ++ second.pieces, some f)
    | none => (first.pieces ++ second.pieces ++ second.remainder, none)

end JsxTemplate.Markup
