import JsxTemplate.Proofs.Printing

/-!
# Reading printed tags and texts

What the markup reader makes of the stretches that a printed template consists
of: a text up to the next tag, an opening tag with its attributes, and a closing
tag. Each is read in full whatever follows it, and a text comes in chunks that
spell it.
-/

namespace JsxTemplate.Markup

open Text

/-! ## Characters of ordinary names -/

theorem ordinary_lt {c : Char} (h : isOrdinary c = true) : c.toNat < 128 := by
  have hsmall : c ≤ 'z' → c.toNat < 128 := fun hle => Nat.lt_of_le_of_lt hle (by decide)
  rw [isOrdinary, Bool.or_eq_true, Bool.or_eq_true, beq_iff_eq] at h
  rcases h with (h | h) | rfl
  · exact hsmall (of_decide_eq_true (Bool.and_eq_true_iff.mp h).2)
  · have hnine : c ≤ '9' := of_decide_eq_true (Bool.and_eq_true_iff.mp h).2
    exact hsmall (Nat.le_trans hnine (by decide))
  · decide

/-- What the reader asks about a character, and how ordinary ones answer. -/
structure Unmarked (c : Char) : Prop where
  tag : isTagChar c = true
  attr : isAttrChar c = true
  closing : isClosingChar c = true
  small : lowerLetter c = [c]
  inner : (isQuote c || isBlank c || c == '/') = false
  sigma : c ≠ 'Σ'
  bracket : c ≠ '>'

theorem unmarked_of_ordinary {c : Char} (h : isOrdinary c = true) : Unmarked c := by
  -- ordinary characters are among the first 128, so each question is asked of those
  have hall : ∀ n < 128, isOrdinary (Char.ofNat n) = true →
      isTagChar (Char.ofNat n) = true ∧ isAttrChar (Char.ofNat n) = true ∧
      isClosingChar (Char.ofNat n) = true ∧ lowerLetter (Char.ofNat n) = [Char.ofNat n] ∧
      (isQuote (Char.ofNat n) || isBlank (Char.ofNat n) || Char.ofNat n == '/') = false ∧
      Char.ofNat n ≠ 'Σ' ∧ Char.ofNat n ≠ '>' := by
    decide +kernel
  have hc := hall c.toNat (ordinary_lt h)
  rw [Char.ofNat_toNat] at hc
  obtain ⟨htag, hattr, hclosing, hsmall, hinner, hsigma, hbracket⟩ := hc h
  exact ⟨htag, hattr, hclosing, hsmall, hinner, hsigma, hbracket⟩

theorem ordinary_of_mem {name : Text} (h : isOrdinaryName name = true) :
    ∀ c ∈ name, isOrdinary c = true := by
  cases name with
  | nil => cases h
  | cons c s =>
    rw [isOrdinaryName, Bool.and_eq_true, List.all_eq_true] at h
    intro d hd
    rcases List.mem_cons.mp hd with rfl | hd
    · simp [isOrdinary, h.1]
    · exact h.2 d hd

theorem exists_cons_of_ordinaryName {name : Text} (h : isOrdinaryName name = true) :
    ∃ c s, name = c :: s ∧ c.isAlpha = true ∧ isOrdinary c = true := by
  cases name with
  | nil => cases h
  | cons c s =>
    have hc := ordinary_of_mem h c List.mem_cons_self
    rw [isOrdinaryName, Bool.and_eq_true] at h
    have halpha : (c.isUpper || c.isLower) = true := by rw [h.1, Bool.or_true]
    exact ⟨c, s, rfl, halpha, hc⟩

/-- An ordinary name is in small letters already. -/
theorem lower_ordinaryName {name : Text} (h : isOrdinaryName name = true) : lower name = name := by
  have hall := ordinary_of_mem h
  have hsigma : 'Σ' ∉ name := fun hmem => (unmarked_of_ordinary (hall _ hmem)).sigma rfl
  rw [lower, if_neg hsigma]
  clear hsigma h
  induction name with
  | nil => rfl
  | cons c s ih =>
    rw [List.flatMap_cons, (unmarked_of_ordinary (hall c List.mem_cons_self)).small,
      ih fun d hd => hall d (List.mem_cons_of_mem c hd)]
    rfl

/-! ## Values -/

/-- A known name with its semicolon is read for what it stands for. -/
theorem named?_of_ofName? {name value : Text} (h : ofName? (name ++ [';']) = some value)
    (hne : name ≠ []) (hchars : name.all isNameChar = true) (hlen : name.length ≤ 32)
    (rest : Text) : named? (name ++ ';' :: rest) = some (value, rest) := by
  have hrun : ((name ++ ';' :: rest).takeWhile isNameChar).take 32 = name := by
    rw [(takeWhile_run (List.all_eq_true.mp hchars) rfl).1, List.take_of_length_le hlen]
  have hdrop : skipSemicolon ((name ++ ';' :: rest).drop name.length) = rest := by
    rw [List.drop_left]
    rfl
  have htake : (name ++ ';' :: rest).take ((name ++ ';' :: rest).length - rest.length) =
      name ++ [';'] := by
    rw [List.append_cons, List.length_append, Nat.add_sub_cancel, List.take_left]
  unfold named?
  rw [hrun]
  cases name with
  | nil => exact absurd rfl hne
  | cons c s => simp only [hdrop, htake, h]

theorem reference?_amp (rest : Text) :
    reference? (['a', 'm', 'p'] ++ ';' :: rest) = some (['&'], rest) :=
  @named?_of_ofName? ['a', 'm', 'p'] ['&'] (by decide +kernel) (by decide) rfl (by decide) rest

theorem reference?_quot (rest : Text) :
    reference? (['q', 'u', 'o', 't'] ++ ';' :: rest) = some (['"'], rest) :=
  @named?_of_ofName? ['q', 'u', 'o', 't'] ['"'] (by decide +kernel) (by decide) rfl (by decide)
    rest

theorem unescape_cons_of_ne {c : Char} (h : c ≠ '&') (s : Text) :
    unescape (c :: s) = c :: unescape s := by
  rw [unescape, if_neg h]

theorem unescape_reference {s value rest : Text} (h : reference? s = some (value, rest)) :
    unescape ('&' :: s) = value ++ unescape rest := by
  rw [unescape, if_pos rfl]
  split
  · next hsome =>
    rw [h] at hsome
    cases hsome
    rfl
  · next hnone =>
    rw [h] at hnone
    cases hnone

/-- A value is what its written form stands for. -/
theorem unescape_escapeValue (value : Text) : unescape (escapeValue value) = value := by
  induction value with
  | nil => rw [escapeValue, List.flatMap_nil, unescape]
  | cons c s ih =>
    rw [escapeValue, List.flatMap_cons, ← escapeValue]
    by_cases hamp : c = '&'
    · rw [if_pos hamp, hamp]
      exact (unescape_reference (reference?_amp _)).trans (congrArg (List.cons '&') ih)
    · by_cases hquot : c = '"'
      · rw [if_neg hamp, if_pos hquot, hquot]
        exact (unescape_reference (reference?_quot _)).trans (congrArg (List.cons '"') ih)
      · rw [if_neg hamp, if_neg hquot, List.singleton_append, unescape_cons_of_ne hamp, ih]

theorem quote_not_mem_escapeValue (value : Text) : '"' ∉ escapeValue value := by
  intro hmem
  obtain ⟨c, -, hc⟩ := List.mem_flatMap.mp hmem
  by_cases hamp : c = '&'
  · rw [if_pos hamp] at hc
    exact absurd hc (by decide)
  · by_cases hquot : c = '"'
    · rw [if_neg hamp, if_pos hquot] at hc
      exact absurd hc (by decide)
    · rw [if_neg hamp, if_neg hquot, List.mem_singleton] at hc
      exact hquot hc.symm

theorem longNumber?_cons_of_ne {c : Char} (h : c ≠ '&') (s : Text) :
    longNumber? (c :: s) = longNumber? s := by
  cases s with
  | nil => simp [longNumber?]
  | cons d s => simp [longNumber?, h]

/-- A written value holds no numbers, so none that is too long. -/
theorem longNumber?_escapeValue (value : Text) : longNumber? (escapeValue value) = none := by
  induction value with
  | nil => rfl
  | cons c s ih =>
    rw [escapeValue, List.flatMap_cons, ← escapeValue]
    by_cases hamp : c = '&'
    · rw [if_pos hamp]
      exact ih
    · by_cases hquot : c = '"'
      · rw [if_neg hamp, if_pos hquot]
        exact ih
      · rw [if_neg hamp, if_neg hquot, List.singleton_append, longNumber?_cons_of_ne hamp, ih]

/-! ## Opening tags -/

theorem trimStart_cons {c : Char} (h : isBlank c = false) (s : Text) :
    trimStart (c :: s) = c :: s := List.dropWhile_cons_of_neg (by simp [h])

/-- A value in double quotes is assigned as it is written. -/
theorem attrTail_quoted (name : Text) {value : Text} (h : '"' ∉ value) (rest : Text) :
    attrTail name ('=' :: '"' :: (value ++ '"' :: rest)) = (some value, rest, true) := by
  have hstart : trimStart ('=' :: '"' :: (value ++ '"' :: rest)) =
      '=' :: '"' :: (value ++ '"' :: rest) := trimStart_cons (by decide) _
  have hquote : trimStart ('"' :: (value ++ '"' :: rest)) = '"' :: (value ++ '"' :: rest) :=
    trimStart_cons (by decide) _
  have hsigns : ('=' :: '"' :: (value ++ '"' :: rest)).takeWhile (· == '=') = ['='] := rfl
  have hdrop : ('=' :: '"' :: (value ++ '"' :: rest)).dropWhile (· == '=') =
      '"' :: (value ++ '"' :: rest) := rfl
  have hassigned : assigned? ('=' :: '"' :: (value ++ '"' :: rest)) = some ⟨value, true, rest⟩ := by
    simp only [assigned?, hstart, hsigns, hdrop, hquote, cut?_char h]
    rfl
  rw [attrTail, hassigned]

theorem skipGap_cons {c : Char} (hc : (isBlank c || c == '/') = false) (s : Text) :
    skipGap (c :: s) = c :: s := by
  have hslash : c ≠ '/' := by
    rintro rfl
    cases hc
  unfold skipGap
  split
  · next h => cases h
  · next h => exact absurd (List.cons.inj h).1 hslash
  · next h =>
    cases h
    rw [if_neg (by simpa using hc)]

theorem isAttrStart_of_ordinary {c : Char} (h : isOrdinary c = true) : isAttrStart c = true := by
  have hattr := (unmarked_of_ordinary h).attr
  rw [isAttrChar, Bool.and_eq_true] at hattr
  exact hattr.1

theorem skipGap_ordinary {c : Char} (h : isOrdinary c = true) (s : Text) :
    skipGap (c :: s) = c :: s := by
  have hinner := (unmarked_of_ordinary h).inner
  rw [Bool.or_assoc, Bool.or_eq_false_iff] at hinner
  exact skipGap_cons hinner.2 s

/-- An attribute with its value as it is written. -/
def written (attr : Text × Option Text) : Text × Option Text :=
  (attr.1, some (escapeValue (attr.2.getD [])))

theorem unescape_written {attrs : Attrs} (h : CanonicalAttrs attrs) :
    (attrs.map written).map (fun (name, value) => (name, value.map unescape)) = attrs := by
  rw [List.map_map]
  refine (List.map_congr_left fun a _ => ?_).trans h.map_getD
  simp only [Function.comp_apply, written, Option.map_some, unescape_escapeValue]

theorem complete_written (attrs : Attrs) (event : Event) (rest : Text) :
    complete (attrs.map written) event rest = .done event rest := by
  have hnone : (attrs.map written).findSome? (fun (_, value) => value.bind longNumber?) = none := by
    rw [List.findSome?_eq_none_iff]
    intro a ha
    obtain ⟨b, -, rfl⟩ := List.mem_map.mp ha
    exact longNumber?_escapeValue _
  rw [complete, hnone]

/-- One attribute with its value in double quotes, and those behind it. -/
theorem attributes_quoted {name value : Text} (hname : isOrdinaryName name = true)
    (hvalue : '"' ∉ value) (more : Text) :
    attributes true (name ++ '=' :: '"' :: (value ++ '"' :: more)) =
      ((name, some value) :: (attributes true (skipGap more)).1,
        (attributes true (skipGap more)).2) := by
  have hlower := lower_ordinaryName hname
  obtain ⟨c, s, rfl, -, hc⟩ := exists_cons_of_ordinaryName hname
  have hchars : ∀ d ∈ s, isAttrChar d = true := fun d hd =>
    (unmarked_of_ordinary (ordinary_of_mem hname d (List.mem_cons_of_mem c hd))).attr
  obtain ⟨htake, hdrop⟩ := @takeWhile_run isAttrChar s hchars
    ('=' :: '"' :: (value ++ '"' :: more)) rfl
  rw [List.cons_append, attributes, if_pos (by simp [isAttrStart_of_ordinary hc])]
  simp only [htake, hdrop, attrTail_quoted _ hvalue, hlower, Bool.true_or]

/-- The attributes of a printed tag are read one after another, up to the tag's
end. The first needs a gap before it, the others follow a quote. -/
theorem attributes_printed {attrs : Attrs} (hnames : ∀ a ∈ attrs, isOrdinaryName a.1 = true)
    {tail after : Text} {c : Char} (htail : skipGap tail = c :: after) (hc : isAttrStart c = false)
    {fresh : Bool} (hfresh : attrs ≠ [] → fresh = true) :
    attributes fresh (skipGap (attrs.flatMap printAttr ++ tail)) =
      (attrs.map written, c :: after) := by
  induction attrs generalizing fresh with
  | nil =>
    rw [List.flatMap_nil, List.nil_append, htail, attributes, if_neg (by simp [hc])]
    rfl
  | cons a attrs ih =>
    have hname := hnames a List.mem_cons_self
    have hprint : (a :: attrs).flatMap printAttr ++ tail =
        ' ' :: (a.1 ++ '=' :: '"' :: (escapeValue (a.2.getD []) ++
          '"' :: (attrs.flatMap printAttr ++ tail))) := by
      simp [printAttr]
    have hgap : ∀ t, skipGap (' ' :: (a.1 ++ t)) = a.1 ++ t := by
      obtain ⟨d, s, hcons, -, hd⟩ := exists_cons_of_ordinaryName hname
      intro t
      rw [hcons]
      exact skipGap_ordinary hd _
    rw [hprint, hgap, hfresh (List.cons_ne_nil _ _),
      attributes_quoted hname (quote_not_mem_escapeValue _),
      ih (fun b hb => hnames b (List.mem_cons_of_mem a hb)) fun _ => rfl]
    rfl

/-- A printed tag falls into its name, its attributes and its end. -/
theorem printTag_parts {name : Text} {attrs : Attrs} (hname : isOrdinaryName name = true)
    (hattrs : CanonicalAttrs attrs) {tail after : Text} {c : Char}
    (hend : tail.head?.all (fun d => !isTagChar d) = true) (htail : skipGap tail = c :: after)
    (hc : isAttrStart c = false) :
    (printTag name attrs ++ tail).takeWhile isTagChar = name ∧
      ∃ inside, (printTag name attrs ++ tail).dropWhile isTagChar = inside ∧
        attributes (decide ((skipGap inside).length < inside.length) || endsOpen name)
          (skipGap inside) = (attrs.map written, c :: after) := by
  have hchars : ∀ d ∈ name, isTagChar d = true := fun d hd =>
    (unmarked_of_ordinary (ordinary_of_mem hname d hd)).tag
  have hhead : (attrs.flatMap printAttr ++ tail).head?.all (fun d => !isTagChar d) = true := by
    cases attrs with
    | nil => exact hend
    | cons a attrs => rfl
  obtain ⟨htake, hdrop⟩ := takeWhile_run hchars hhead
  rw [printTag, List.append_assoc]
  refine ⟨htake, _, hdrop, ?_⟩
  refine attributes_printed (List.all_eq_true.mp hattrs.named) htail hc fun hne => ?_
  -- the gap before the first attribute is skipped
  obtain ⟨a, attrs, rfl⟩ := List.exists_cons_of_ne_nil hne
  obtain ⟨s, hs⟩ : ∃ s, (a :: attrs).flatMap printAttr ++ tail = ' ' :: s := ⟨_, rfl⟩
  have hlt : (skipGap (' ' :: s)).length < (' ' :: s).length :=
    Nat.lt_succ_of_le (skipGap_suffix s).length_le
  rw [hs, decide_eq_true hlt, Bool.true_or]

/-- A tag that ends in a bracket alone. -/
theorem readOpening_printTag {name : Text} {attrs : Attrs} (hname : isOrdinaryName name = true)
    (hattrs : CanonicalAttrs attrs) (rest : Text) :
    readOpening (printTag name attrs ++ '>' :: rest) = .done (.opening name attrs) rest := by
  have hend : skipGap ('>' :: rest) = '>' :: rest := skipGap_cons rfl rest
  obtain ⟨htake, inside, hdrop, hattributes⟩ := printTag_parts hname hattrs rfl hend rfl
  unfold readOpening
  simp only [htake, hdrop, hattributes, lower_ordinaryName hname, unescape_written hattrs,
    complete_written]

/-- A tag that ends in a slash and a bracket. -/
theorem readOpening_printTag_slash {name : Text} {attrs : Attrs}
    (hname : isOrdinaryName name = true) (hattrs : CanonicalAttrs attrs) (rest : Text) :
    readOpening (printTag name attrs ++ ' ' :: '/' :: '>' :: rest) =
      .done (.empty name attrs) rest := by
  have hend : skipGap (' ' :: '/' :: '>' :: rest) = '/' :: '>' :: rest := rfl
  obtain ⟨htake, inside, hdrop, hattributes⟩ := printTag_parts hname hattrs rfl hend rfl
  unfold readOpening
  simp only [htake, hdrop, hattributes, lower_ordinaryName hname, unescape_written hattrs,
    complete_written]

/-! ## Closing tags -/

theorem readClosing_name {name : Text} (hname : isOrdinaryName name = true) (rest : Text) :
    readClosing (name ++ '>' :: rest) = .done (.closing name) rest := by
  have hbracket : '>' ∉ name := fun hmem =>
    (unmarked_of_ordinary (ordinary_of_mem hname _ hmem)).bracket rfl
  have hcut : cut? ">" (name ++ '>' :: rest) = some (name, rest) := cut?_char hbracket rest
  have hlone : loneName? name = some name := by
    obtain ⟨c, s, rfl, halpha, hc⟩ := exists_cons_of_ordinaryName hname
    have hchars : ∀ d ∈ s, isClosingChar d = true := fun d hd =>
      (unmarked_of_ordinary (ordinary_of_mem hname d (List.mem_cons_of_mem c hd))).closing
    have hblank : isBlank c = false := by
      have hinner := (unmarked_of_ordinary hc).inner
      simp only [Bool.or_eq_false_iff] at hinner
      exact hinner.1.2
    obtain ⟨htake, hdrop⟩ := @takeWhile_run isClosingChar s hchars [] rfl
    rw [List.append_nil] at htake hdrop
    simp [loneName?, trimStart_cons hblank, halpha, htake, hdrop]
  rw [readClosing, hcut]
  simp only [closingEvent, hlone, Option.some_or, lower_ordinaryName hname]

/-! ## References in texts -/

theorem digits?_run {p : Char → Bool} (hp : p ';' = false) {run : Text} (hne : run ≠ [])
    (hrun : ∀ c ∈ run, p c = true) (rest : Text) :
    digits? p (run ++ ';' :: rest) = some (run, ';' :: rest) := by
  obtain ⟨htake, hdrop⟩ := @takeWhile_run p run hrun (';' :: rest) (by simp [hp])
  obtain ⟨c, s, rfl⟩ := List.exists_cons_of_ne_nil hne
  rw [digits?, htake, hdrop]
  rfl

/-- A decimal number is not taken for a hexadecimal one. -/
theorem referenceNumber?_run {run : Text} (hne : run ≠ []) (hrun : ∀ c ∈ run, c.isDigit = true)
    (rest : Text) : referenceNumber? (run ++ ';' :: rest) = some (run, ';' :: rest) := by
  have hdigits := digits?_run (by decide) hne hrun rest
  obtain ⟨c, s, rfl⟩ := List.exists_cons_of_ne_nil hne
  have hc := hrun c List.mem_cons_self
  unfold referenceNumber?
  split
  · next h =>
    rw [(List.cons.inj h).1] at hc
    exact absurd hc (by decide)
  · next h =>
    rw [(List.cons.inj h).1] at hc
    exact absurd hc (by decide)
  · exact hdigits

theorem ampersandStep_name {c : Char} {t name rest : Text} (hc : c.isAlpha = true)
    (h : referenceName? (c :: t) = some (name, rest)) :
    ampersandStep false (c :: t) =
      .take (.text ('&' :: name ++ [';'])) .markup (skipSemicolon rest) := by
  unfold ampersandStep
  split
  · next hnil => cases hnil
  · next hcons =>
    rw [(List.cons.inj hcons).1] at hc
    exact absurd hc (by decide)
  · next hcons =>
    cases hcons
    rw [if_pos hc, h]

/-- A complete reference in a text is read up to its semicolon and stays as it
is written. -/
theorem ampersandStep_reference {ref : Text} (h : Reference ref) (rest : Text) :
    ampersandStep false (ref ++ ';' :: rest) =
      .take (.text ('&' :: ref ++ [';'])) .markup rest := by
  cases h with
  | @hex mark run marked filled digits =>
    have hdigits := digits?_run (by decide) filled (List.all_eq_true.mp digits) rest
    rcases marked with rfl | rfl
    · simp [ampersandStep, referenceNumber?, hdigits, skipSemicolon]
    · simp [ampersandStep, referenceNumber?, hdigits, skipSemicolon]
  | @decimal run filled digits =>
    have hnumber := referenceNumber?_run filled (List.all_eq_true.mp digits) rest
    simp [ampersandStep, hnumber, skipSemicolon]
  | @named c run letter chars =>
    obtain ⟨htake, hdrop⟩ := @takeWhile_run isReferenceChar (c :: run) (List.all_eq_true.mp chars)
      (';' :: rest) rfl
    have hname : referenceName? (c :: (run ++ ';' :: rest)) = some (c :: run, ';' :: rest) := by
      rw [← List.cons_append, referenceName?, hdrop, htake]
    exact ampersandStep_name letter hname

/-! ## Moves and passes -/

/-- The first pass reads `s` as these pieces when `rest` follows it, and goes on
with `rest`. -/
def Reads (s rest : Text) (pieces : List Piece) : Prop :=
  pass false .markup (s ++ rest) =
    { pass false .markup rest with pieces := pieces ++ (pass false .markup rest).pieces }

theorem Reads.nil (rest : Text) : Reads [] rest [] := rfl

theorem Reads.append {s t rest : Text} {ps qs : List Piece} (hs : Reads s (t ++ rest) ps)
    (ht : Reads t rest qs) : Reads (s ++ t) rest (ps ++ qs) := by
  rw [Reads, List.append_assoc, hs, ht, List.append_assoc]

theorem Reads.of_step {s rest : Text} {event : Event}
    (h : step false .markup (s ++ rest) = .take event .markup rest) :
    Reads s rest [⟨s, event⟩] := by
  have hraw : Piece.between (s ++ rest) rest event = ⟨s, event⟩ := by
    rw [Piece.between, List.length_append, Nat.add_sub_cancel, List.take_left]
  rw [Reads, pass]
  split
  · next hmoved =>
    rw [h] at hmoved
    cases hmoved
    simp only [hraw]
    rfl
  · next hmoved =>
    rw [h] at hmoved
    cases hmoved
  · next hmoved =>
    rw [h] at hmoved
    cases hmoved

theorem readMarkup_printTag {name : Text} (hname : isOrdinaryName name = true) (attrs : Attrs)
    (tail : Text) :
    readMarkup (printTag name attrs ++ tail) =
      some (readOpening (printTag name attrs ++ tail)) := by
  obtain ⟨c, s, rfl, halpha, hc⟩ := exists_cons_of_ordinaryName hname
  rw [printTag, List.cons_append, List.cons_append]
  have hother : ∀ d, isOrdinary d = false → ∀ t u, c :: t ≠ d :: u := by
    rintro d hd t u h
    rw [← (List.cons.inj h).1, hc] at hd
    cases hd
  unfold readMarkup
  split
  · next h => cases h
  · next h => exact absurd h (hother _ rfl _ _)
  · next h => exact absurd h (hother _ rfl _ _)
  · next h => exact absurd h (hother _ rfl _ _)
  · next h =>
    cases h
    rw [if_pos halpha]

theorem reads_opening {name : Text} {attrs : Attrs} (hname : isOrdinaryName name = true)
    (hparsed : name ≠ "script" ∧ name ≠ "style") (hattrs : CanonicalAttrs attrs) (rest : Text) :
    Reads ('<' :: printTag name attrs ++ ['>']) rest
      [⟨'<' :: printTag name attrs ++ ['>'], .opening name attrs⟩] := by
  have hraw : rawTextNames.any (·.toList = name) = false := by
    rw [List.any_eq_false]
    rintro n hn hname
    rw [decide_eq_true_eq] at hname
    rcases List.mem_pair.mp hn with rfl | rfl
    · exact hparsed.1 hname.symm
    · exact hparsed.2 hname.symm
  have hmode : Mode.after (.opening name attrs) = .markup := by
    rw [Mode.after, hraw]
    rfl
  refine Reads.of_step ?_
  rw [List.append_assoc, List.singleton_append]
  show bracketStep false (printTag name attrs ++ '>' :: rest) = _
  rw [bracketStep, readMarkup_printTag hname, readOpening_printTag hname hattrs]
  simp only [hmode]

theorem reads_empty {name : Text} {attrs : Attrs} (hname : isOrdinaryName name = true)
    (hattrs : CanonicalAttrs attrs) (rest : Text) :
    Reads ('<' :: printTag name attrs ++ [' ', '/', '>']) rest
      [⟨'<' :: printTag name attrs ++ [' ', '/', '>'], .empty name attrs⟩] := by
  refine Reads.of_step ?_
  rw [List.append_assoc]
  show bracketStep false (printTag name attrs ++ ' ' :: '/' :: '>' :: rest) = _
  rw [bracketStep, readMarkup_printTag hname, readOpening_printTag_slash hname hattrs]
  rfl

theorem reads_closing {name : Text} (hname : isOrdinaryName name = true) (rest : Text) :
    Reads ('<' :: '/' :: name ++ ['>']) rest [⟨'<' :: '/' :: name ++ ['>'], .closing name⟩] := by
  refine Reads.of_step ?_
  rw [List.append_assoc, List.singleton_append]
  show bracketStep false ('/' :: (name ++ '>' :: rest)) = _
  rw [bracketStep, readMarkup, readClosing_name hname]
  rfl

/-! ## Texts up to the next tag -/

/-- Plain characters up to a reference, a tag or the end. -/
theorem reads_plain {c : Char} {s rest : Text} (hc : isPlainChar c = true)
    (hs : ∀ d ∈ s, isPlainChar d = true) (hrest : rest.head?.all (fun d => !isPlainChar d) = true) :
    Reads (c :: s) rest [⟨c :: s, .text (c :: s)⟩] := by
  obtain ⟨htake, hdrop⟩ := takeWhile_run (List.forall_mem_cons.mpr ⟨hc, hs⟩) hrest
  refine Reads.of_step ?_
  rw [List.cons_append] at htake hdrop ⊢
  unfold step
  split
  · next h => cases h
  · next h _ => cases h
  · next h =>
    rw [(List.cons.inj h).1] at hc
    cases hc
  · next h =>
    rw [(List.cons.inj h).1] at hc
    cases hc
  · rw [htake, hdrop]

/-- What follows a run of plain characters does not continue it. -/
theorem head?_dropWhile_plain (s : Text) {rest : Text}
    (hrest : rest.head?.all (· == '<') = true) :
    (s.dropWhile isPlainChar ++ rest).head?.all (fun d => !isPlainChar d) = true := by
  have hnot := List.head?_dropWhile_not isPlainChar s
  cases hs : s.dropWhile isPlainChar with
  | nil =>
    cases rest with
    | nil => rfl
    | cons d t =>
      have hd : d = '<' := by simpa using hrest
      rw [hd]
      rfl
  | cons d t =>
    rw [hs] at hnot
    simpa using hnot

/-- An encoded text is read in chunks that spell it, if a tag or nothing follows. -/
theorem reads_encoded {rest : Text} (hrest : rest.head?.all (· == '<') = true) :
    ∀ {s : Text}, isEncoded s = true →
      ∃ chunks : List Text, Reads s rest (chunks.map fun t => ⟨t, .text t⟩) ∧ chunks.flatten = s
  | [], _ => ⟨[], Reads.nil rest, rfl⟩
  | c :: s, hs => by
    have hc := hs
    rw [isEncoded, Bool.and_eq_true, Bool.and_eq_true, bne_iff_ne, Bool.or_eq_true,
      bne_iff_ne] at hc
    by_cases hamp : c = '&'
    · -- a reference, then the text behind its semicolon
      subst hamp
      obtain ⟨ref, after, hafter, href⟩ := completesReference_iff.mp (hc.1.2.resolve_left (· rfl))
      have hspell : ('&' :: ref ++ [';']) ++ after = '&' :: s := by simp [hafter]
      have hbehind : isEncoded after = true := isEncoded_of_append (hspell.symm ▸ hs)
      have hshorter : after.length < ('&' :: s).length := by
        rw [← hspell, List.length_append]
        exact Nat.lt_add_of_pos_left (Nat.succ_pos _)
      obtain ⟨chunks, hreads, hflat⟩ := reads_encoded hrest hbehind
      have hfirst : Reads ('&' :: ref ++ [';']) (after ++ rest)
          [⟨'&' :: ref ++ [';'], .text ('&' :: ref ++ [';'])⟩] := by
        refine Reads.of_step ?_
        rw [List.append_assoc]
        exact ampersandStep_reference href (after ++ rest)
      refine ⟨('&' :: ref ++ [';']) :: chunks, ?_, ?_⟩
      · rw [← hspell]
        exact hfirst.append hreads
      · rw [List.flatten_cons, hflat, hspell]
    · -- plain characters, then the text from the next reference on
      have hplain : isPlainChar c = true := by
        rw [isPlainChar, Bool.and_eq_true, bne_iff_ne, bne_iff_ne]
        exact ⟨hc.1.1, hamp⟩
      have hspell : (c :: s.takeWhile isPlainChar) ++ s.dropWhile isPlainChar = c :: s := by
        rw [List.cons_append, List.takeWhile_append_dropWhile]
      have hbehind : isEncoded (s.dropWhile isPlainChar) = true :=
        isEncoded_of_append (hspell.symm ▸ hs)
      have hshorter : (s.dropWhile isPlainChar).length < (c :: s).length :=
        Nat.lt_succ_of_le (List.dropWhile_suffix isPlainChar).length_le
      obtain ⟨chunks, hreads, hflat⟩ := reads_encoded hrest hbehind
      have hrun : ∀ d ∈ s.takeWhile isPlainChar, isPlainChar d = true :=
        List.all_eq_true.mp List.all_takeWhile
      have hfirst := reads_plain hplain hrun (head?_dropWhile_plain s hrest)
      refine ⟨(c :: s.takeWhile isPlainChar) :: chunks, ?_, ?_⟩
      · rw [← hspell]
        exact hfirst.append hreads
      · rw [List.flatten_cons, hflat, hspell]
termination_by s => s.length
decreasing_by all_goals exact hshorter

end JsxTemplate.Markup
