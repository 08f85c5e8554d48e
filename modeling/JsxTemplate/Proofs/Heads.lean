import JsxTemplate.Proofs.Compiling
import JsxTemplate.Proofs.Imports

/-!
# Heads of modules

A module begins with a line for each import and declares its component. The names of the
imports are made from their tags one by one and their sources are written between quotes
as they are. So the names that a module declares are distinct, and its literals denote the
sources, under conditions on the template that are found here; that it is compiled says
nothing about them.
-/

namespace JsxTemplate

open Jsx

/-! ## Tags with one name -/

namespace Text

theorem toNat_of_isUpper {c : Char} (h : c.isUpper = true) : 65 ≤ c.toNat ∧ c.toNat ≤ 90 :=
  of_decide_eq_true h

theorem toNat_ofNat_cases (n : Nat) : (Char.ofNat n).toNat = n ∨ (Char.ofNat n).toNat = 0 := by
  by_cases h : n.isValidChar
  · exact .inl (congrArg Char.toNat (dif_pos h : Char.ofNat n = Char.ofNatAux n h))
  · exact .inr (congrArg Char.toNat (dif_neg h))

/-- No capital above Basic Latin has a small letter that is a capital of it. -/
theorem capitalRuns_apart : capitalRuns.all (fun run =>
    (run.2.1 : Int) + run.2.2.2 < 65 || 90 < (run.1 : Int) + run.2.2.2) = true := by
  decide +kernel

theorem isUpper_lowerChar (c : Char) : (lowerChar c).isUpper = false := by
  unfold lowerChar
  dsimp only
  split
  · next hlt => exact of_ascii (fun c => c.toLower.isUpper = false) (by decide +kernel) hlt
  · next hge =>
    split
    · next first last step shift hrun =>
      refine Bool.eq_false_iff.mpr fun hupper => ?_
      obtain ⟨hlow, hhigh⟩ := toNat_of_isUpper hupper
      have hapart := List.all_eq_true.mp capitalRuns_apart _ (List.mem_of_find?_eq_some hrun)
      have hin := List.find?_some hrun
      simp only [Bool.or_eq_true, decide_eq_true_eq, Bool.and_eq_true] at hapart hin
      rcases toNat_ofNat_cases (((c.toNat : Int) + shift).toNat) with hn | hn <;> omega
    · refine Bool.eq_false_iff.mpr fun hupper => ?_
      obtain ⟨-, hhigh⟩ := toNat_of_isUpper hupper
      omega

theorem isUpper_of_mem_lowerLetter {c d : Char} (h : d ∈ lowerLetter c) : d.isUpper = false := by
  unfold lowerLetter at h
  split at h
  · rcases List.mem_pair.mp h with rfl | rfl <;> decide
  · rw [List.mem_singleton.mp h]
    exact isUpper_lowerChar c

theorem isUpper_of_mem_lowerWords {s : Text} {inWord : Bool} {d : Char}
    (h : d ∈ lowerWords inWord s) : d.isUpper = false := by
  induction s generalizing inWord with
  | nil => cases h
  | cons c s ih =>
    rw [lowerWords] at h
    rcases List.mem_append.mp h with h | h
    · split at h
      · split at h <;> rw [List.mem_singleton.mp h] <;> decide
      · exact isUpper_of_mem_lowerLetter h
    · exact ih h

/-- A text made small has no capital of Basic Latin. -/
theorem isUpper_of_mem_lower {s : Text} {d : Char} (h : d ∈ lower s) : d.isUpper = false := by
  unfold lower at h
  split at h
  · exact isUpper_of_mem_lowerWords h
  · obtain ⟨c, -, hd⟩ := List.mem_flatMap.mp h
    exact isUpper_of_mem_lowerLetter hd

end Text

namespace Jsx

/-- Does a word begin with a digit? -/
def beginsWithDigit (word : Text) : Bool := word.head?.any Char.isDigit

/-- The words that a name in capitals shows: one that begins with a digit is not told from
the end of the word before it. -/
def shownWords : List Text → List Text
  | [] => []
  | word :: words =>
    match shownWords words with
    | [] => [word]
    | next :: others =>
      if beginsWithDigit next then (word ++ next) :: others else word :: next :: others

/-- A word without capitals. -/
structure SmallWord (word : Text) : Prop where
  ne_nil : word ≠ []
  small : ∀ c ∈ word, c.isAlphanum = true ∧ c.isUpper = false

theorem toUpper_of_isDigit {c : Char} (h : c.isDigit = true) : c.toUpper = c := by
  have hlast : c ≤ '9' := of_decide_eq_true (Bool.and_eq_true_iff.mp h).2
  exact of_ascii (fun c => c.isDigit = true → c.toUpper = c) (by decide +kernel)
    (Nat.lt_of_le_of_lt hlast (by decide)) h

/-- A small letter is known from its capital, which begins a word. -/
theorem toUpper_of_small {c : Char} (h : c.isAlphanum = true ∧ c.isUpper = false) :
    c.toUpper.toLower = c ∧ (c.isDigit = false → c.toUpper.isUpper = true) :=
  of_ascii (fun c => c.isAlphanum = true ∧ c.isUpper = false →
      c.toUpper.toLower = c ∧ (c.isDigit = false → c.toUpper.isUpper = true))
    (by decide +kernel) (isAlphanum_lt h.1) h

theorem smallWord_of_mem_nameWords {s word : Text} (hs : ∀ c ∈ s, c.isUpper = false)
    (h : word ∈ nameWords s) : SmallWord word := by
  obtain ⟨hne, hall⟩ := of_mem_nameWords h
  exact ⟨hne, fun c hc => ⟨(hall c hc).2, hs c (hall c hc).1⟩⟩

theorem SmallWord.append {word more : Text} (hword : SmallWord word) (hmore : SmallWord more) :
    SmallWord (word ++ more) := by
  refine ⟨fun h => hword.ne_nil (List.append_eq_nil_iff.mp h).1, fun c hc => ?_⟩
  rcases List.mem_append.mp hc with hc | hc
  · exact hword.small c hc
  · exact hmore.small c hc

/-- The words that are shown are words again, and but for the first they begin with letters. -/
theorem shownWords_spec {words : List Text} (h : ∀ word ∈ words, SmallWord word) :
    (∀ word ∈ shownWords words, SmallWord word) ∧
      ∀ word ∈ (shownWords words).tail, beginsWithDigit word = false := by
  induction words with
  | nil => exact ⟨List.forall_mem_nil _, List.forall_mem_nil _⟩
  | cons word words ih =>
    obtain ⟨hword, hwords⟩ := List.forall_mem_cons.mp h
    obtain ⟨hsmall, htail⟩ := ih hwords
    rw [shownWords]
    split
    · exact ⟨List.forall_mem_singleton.mpr hword, List.forall_mem_nil _⟩
    · next following others hshown =>
      rw [hshown] at hsmall htail
      obtain ⟨hfirst, hothers⟩ := List.forall_mem_cons.mp hsmall
      split
      · exact ⟨List.forall_mem_cons.mpr ⟨hword.append hfirst, hothers⟩, htail⟩
      · next hletter =>
        exact ⟨List.forall_mem_cons.mpr ⟨hword, hsmall⟩,
          List.forall_mem_cons.mpr ⟨Bool.eq_false_iff.mpr hletter, htail⟩⟩

theorem capitalize_of_digit {word : Text} (h : beginsWithDigit word = true) :
    Text.capitalize word = word := by
  cases word with
  | nil => rfl
  | cons c more =>
    rw [Text.capitalize, toUpper_of_isDigit h]

theorem capitalize_append {word : Text} (h : word ≠ []) (more : Text) :
    Text.capitalize (word ++ more) = Text.capitalize word ++ more := by
  obtain ⟨c, rest, rfl⟩ := List.exists_cons_of_ne_nil h
  rfl

/-- The words that are shown give the same name. -/
theorem capitalize_shownWords {words : List Text} (h : ∀ word ∈ words, SmallWord word) :
    (shownWords words).flatMap Text.capitalize = words.flatMap Text.capitalize := by
  induction words with
  | nil => rfl
  | cons word words ih =>
    obtain ⟨hword, hwords⟩ := List.forall_mem_cons.mp h
    rw [List.flatMap_cons, ← ih hwords, shownWords]
    split
    · next hshown =>
      rw [hshown]
      exact List.flatMap_cons
    · next following others hshown =>
      rw [hshown]
      split
      · next hdigit =>
        rw [List.flatMap_cons, List.flatMap_cons, capitalize_append hword.ne_nil,
          capitalize_of_digit hdigit, List.append_assoc]
      · rw [List.flatMap_cons]

/-- What follows a word in a name is empty or begins with a capital. -/
theorem isUpper_head?_capitals {words : List Text} (hwords : ∀ word ∈ words, SmallWord word)
    (hletters : ∀ word ∈ words, beginsWithDigit word = false) :
    (words.flatMap Text.capitalize).head?.all (fun c => !!c.isUpper) = true := by
  cases words with
  | nil => rfl
  | cons word words =>
    have hword := hwords word List.mem_cons_self
    have hletter := hletters word List.mem_cons_self
    obtain ⟨d, more, rfl⟩ := List.exists_cons_of_ne_nil hword.ne_nil
    show (!!d.toUpper.isUpper) = true
    rw [Bool.not_not]
    exact (toUpper_of_small (hword.small d List.mem_cons_self)).2 hletter

/-- Words that begin with letters are found in the name that they make. -/
theorem eq_of_capitalize_eq {words others : List Text}
    (hwords : ∀ word ∈ words, SmallWord word)
    (hletters : ∀ word ∈ words.tail, beginsWithDigit word = false)
    (hothers : ∀ word ∈ others, SmallWord word)
    (hletters' : ∀ word ∈ others.tail, beginsWithDigit word = false)
    (h : words.flatMap Text.capitalize = others.flatMap Text.capitalize) : words = others := by
  have hfilled : ∀ {word : Text} {more : List Text}, SmallWord word →
      (word :: more).flatMap Text.capitalize ≠ [] := by
    intro word more hword
    obtain ⟨c, rest, rfl⟩ := List.exists_cons_of_ne_nil hword.ne_nil
    exact List.cons_ne_nil _ _
  induction words generalizing others with
  | nil =>
    cases others with
    | nil => rfl
    | cons other others => exact absurd h.symm (hfilled (hothers other List.mem_cons_self))
  | cons word words ih =>
    cases others with
    | nil => exact absurd h (hfilled (hwords word List.mem_cons_self))
    | cons other others =>
      obtain ⟨hword, hbehind⟩ := List.forall_mem_cons.mp hwords
      obtain ⟨hother, hbehind'⟩ := List.forall_mem_cons.mp hothers
      obtain ⟨c, rest, rfl⟩ := List.exists_cons_of_ne_nil hword.ne_nil
      obtain ⟨d, rest', rfl⟩ := List.exists_cons_of_ne_nil hother.ne_nil
      obtain ⟨hc, hrest⟩ := List.forall_mem_cons.mp hword.small
      obtain ⟨hd, hrest'⟩ := List.forall_mem_cons.mp hother.small
      obtain ⟨hfirst, hmore⟩ : c.toUpper = d.toUpper ∧
          rest ++ words.flatMap Text.capitalize = rest' ++ others.flatMap Text.capitalize :=
        List.cons_eq_cons.mp h
      have hcd : c = d := by
        rw [← (toUpper_of_small hc).1, ← (toUpper_of_small hd).1, hfirst]
      -- the first word ends before the next capital
      have hsmall : ∀ {more : Text}, (∀ c ∈ more, c.isAlphanum = true ∧ c.isUpper = false) →
          ∀ c ∈ more, (!c.isUpper) = true := fun hmore c hc => by rw [(hmore c hc).2, Bool.not_false]
      obtain ⟨htake, hdrop⟩ :=
        Text.takeWhile_run (hsmall hrest) (isUpper_head?_capitals hbehind hletters)
      obtain ⟨htake', hdrop'⟩ :=
        Text.takeWhile_run (hsmall hrest') (isUpper_head?_capitals hbehind' hletters')
      rw [hmore] at htake hdrop
      have hsame : words = others :=
        ih hbehind (fun w hw => hletters w (List.mem_of_mem_tail hw)) hbehind'
          (fun w hw => hletters' w (List.mem_of_mem_tail hw)) (hdrop.symm.trans hdrop')
      rw [hcd, hsame, htake.symm.trans htake']

/-- Two tags have the same name if and only if they have the same words, where a word that
begins with a digit counts as the end of the one before. -/
theorem pascalCase_eq_iff {s t : Text} (hs : ∀ c ∈ s, c.isUpper = false)
    (ht : ∀ c ∈ t, c.isUpper = false) :
    pascalCase s = pascalCase t ↔ shownWords (nameWords s) = shownWords (nameWords t) := by
  have hsmall : ∀ {r : Text}, (∀ c ∈ r, c.isUpper = false) → ∀ word ∈ nameWords r,
      SmallWord word := fun hr _ hword => smallWord_of_mem_nameWords hr hword
  obtain ⟨hwords, hletters⟩ := shownWords_spec (hsmall hs)
  obtain ⟨hothers, hletters'⟩ := shownWords_spec (hsmall ht)
  rw [pascalCase, pascalCase, ← capitalize_shownWords (hsmall hs),
    ← capitalize_shownWords (hsmall ht)]
  exact ⟨eq_of_capitalize_eq hwords hletters hothers hletters', congrArg _⟩

theorem isComponentName_componentName (stem : Text) : IsComponentName (componentName stem) := by
  unfold componentName
  split
  · next h => exact isComponentName_of_isIdentifier h
  · exact ⟨'C', "omponent", rfl, by decide, List.all_eq_true.mp (by decide)⟩

/-! ## Literals -/

/-- What a backslash may be written before: `written` is read as a text that is no longer. -/
structure Escapes where
  reads (written value : Text) : Prop
  length_le {written value : Text} : reads written value → value.length ≤ written.length

/-- The line ends that a backslash takes out of a literal. -/
def lineEnds : List Text := [['\n'], ['\r'], ['\r', '\n'], ['\u2028'], ['\u2029']]

/-- The characters that have a letter, or zero, to be written with. -/
def letterEscapes : List (Char × Char) :=
  [('0', '\x00'), ('b', '\x08'), ('t', '\t'), ('n', '\n'), ('v', '\x0b'), ('f', '\x0c'),
    ('r', '\r')]

/-- What JavaScript reads behind a backslash, in the strict way of modules. Half of a surrogate
pair is no text and left out; a zero is read whatever comes next, where a digit must not. -/
inductive JavaScriptEscape : Text → Text → Prop
  | lineEnd {s : Text} (hs : s ∈ lineEnds) : JavaScriptEscape s []
  | letter {c d : Char} (hc : (c, d) ∈ letterEscapes) : JavaScriptEscape [c] [d]
  | self {c : Char} (hline : [c] ∉ lineEnds) (hletter : ∀ d, (c, d) ∉ letterEscapes)
      (hcode : c ≠ 'x' ∧ c ≠ 'u' ∧ c.isDigit = false) : JavaScriptEscape [c] [c]
  | byte {digits : Text} {c : Char} (hlength : digits.length = 2)
      (hdigits : digits.all Text.isHexDigit = true) (hc : c.toNat = Text.numeral 16 digits) :
      JavaScriptEscape ('x' :: digits) [c]
  | unit {digits : Text} {c : Char} (hlength : digits.length = 4)
      (hdigits : digits.all Text.isHexDigit = true) (hc : c.toNat = Text.numeral 16 digits) :
      JavaScriptEscape ('u' :: digits) [c]
  | units {high low : Text} {c : Char} (hlength : high.length = 4 ∧ low.length = 4)
      (hdigits : (high ++ low).all Text.isHexDigit = true)
      (hhigh : 0xD800 ≤ Text.numeral 16 high ∧ Text.numeral 16 high < 0xDC00)
      (hlow : 0xDC00 ≤ Text.numeral 16 low ∧ Text.numeral 16 low < 0xE000)
      (hc : c.toNat = 0x10000 + (Text.numeral 16 high - 0xD800) * 0x400 +
        (Text.numeral 16 low - 0xDC00)) :
      JavaScriptEscape ('u' :: (high ++ '\\' :: 'u' :: low)) [c]
  | point {digits : Text} {c : Char} (hne : digits ≠ [])
      (hdigits : digits.all Text.isHexDigit = true) (hc : c.toNat = Text.numeral 16 digits) :
      JavaScriptEscape ('u' :: '{' :: (digits ++ ['}'])) [c]

def Escapes.javaScript : Escapes where
  reads := JavaScriptEscape
  length_le h := by
    cases h <;> simp

/-- The characters that do not stand for themselves between single quotes. -/
def quotedMarks : List Char := ['\'', '\\', '\n', '\r']

/-- A text with no such character. -/
def Verbatim (s : Text) : Prop := ∀ c ∈ s, c ∉ quotedMarks

instance (s : Text) : Decidable (Verbatim s) := List.decidableBAll _ s

/-- Reading a literal from behind its opening quote: what it denotes and what follows. -/
inductive Literal (escapes : Escapes) : Text → Text → Text → Prop
  | close (rest : Text) : Literal escapes ('\'' :: rest) [] rest
  | plain {c : Char} {s value rest : Text} (hc : c ∉ quotedMarks)
      (hread : Literal escapes s value rest) : Literal escapes (c :: s) (c :: value) rest
  | escaped {written stands s value rest : Text} (hescape : escapes.reads written stands)
      (hread : Literal escapes s value rest) :
      Literal escapes ('\\' :: (written ++ s)) (stands ++ value) rest

variable {escapes : Escapes} {s value rest : Text}

/-- A literal denotes what is written in it, or less. -/
theorem Literal.verbatim_or_lt (h : Literal escapes s value rest) :
    (s = value ++ '\'' :: rest ∧ Verbatim value) ∨ value.length + rest.length + 1 < s.length := by
  induction h with
  | close rest => exact .inl ⟨rfl, List.forall_mem_nil _⟩
  | plain hc _ ih =>
    rcases ih with ⟨rfl, hverbatim⟩ | hlt
    · exact .inl ⟨rfl, List.forall_mem_cons.mpr ⟨hc, hverbatim⟩⟩
    · refine .inr ?_
      simp only [List.length_cons]
      omega
  | escaped hescape _ ih =>
    have hle := escapes.length_le hescape
    refine .inr ?_
    simp only [List.length_cons, List.length_append]
    rcases ih with ⟨rfl, -⟩ | hlt
    · simp only [List.length_append, List.length_cons]
      omega
    · omega

/-- A text between quotes denotes itself if and only if it has no quote, backslash or line
end, however escapes are read. -/
theorem literal_self_iff : Literal escapes (value ++ '\'' :: rest) value rest ↔ Verbatim value := by
  constructor
  · intro h
    rcases h.verbatim_or_lt with ⟨-, hverbatim⟩ | hlt
    · exact hverbatim
    · simp only [List.length_append, List.length_cons] at hlt
      omega
  · intro h
    induction value with
    | nil => exact .close rest
    | cons c value ih =>
      obtain ⟨hc, hvalue⟩ := List.forall_mem_cons.mp h
      exact .plain hc (ih hvalue)

/-- Every text has a literal in JavaScript, though not one in which it stands as it is. -/
theorem exists_literal (value rest : Text) :
    ∃ s, Literal .javaScript (s ++ '\'' :: rest) value rest := by
  induction value with
  | nil => exact ⟨[], .close rest⟩
  | cons c value ih =>
    obtain ⟨s, hread⟩ := ih
    by_cases hc : c ∈ quotedMarks
    · obtain ⟨d, hescape⟩ : ∃ d, JavaScriptEscape [d] [c] := by
        simp only [quotedMarks, List.mem_cons, List.not_mem_nil, or_false] at hc
        rcases hc with rfl | rfl | rfl | rfl
        · exact ⟨'\'', .self (by decide) (by simp [letterEscapes]) (by decide)⟩
        · exact ⟨'\\', .self (by decide) (by simp [letterEscapes]) (by decide)⟩
        · exact ⟨'n', .letter (by decide)⟩
        · exact ⟨'r', .letter (by decide)⟩
      exact ⟨'\\' :: d :: s, @Literal.escaped .javaScript [d] [c] _ _ _ hescape hread⟩
    · exact ⟨c :: s, .plain hc hread⟩

end Jsx

/-! ## Compiled files -/

namespace Session

variable {config : Config} {src : Path} {w w' : World}

theorem ofExcept_eq_ok {α : Type} {x : Except Failure α} {a : α}
    (h : (ofExcept x : Session α).run w = .ok a w') : x = .ok a := by
  cases x with
  | error f => cases h
  | ok b =>
    cases h
    rfl

theorem readText_eq_ok {content : Text} (h : (readText src).run w = .ok content w') : w' = w := by
  rw [run_readText] at h
  split at h
  · cases h
  · split at h
    · cases h
    · split at h
      · cases h
        rfl
      · cases h

theorem parseFile_eq_ok {t : Template} (h : (parseFile src).run w = .ok t w') :
    ∃ content notices, (readText src).run w = .ok content w ∧
      Template.parse src.toText content = (notices, .ok t) := by
  unfold parseFile at h
  obtain ⟨content, w₁, hread, hrest⟩ := run_bind_eq_ok h
  obtain rfl := readText_eq_ok hread
  rcases hparse : Template.parse src.toText content with ⟨notices, result⟩
  rw [hparse] at hrest
  obtain ⟨_, w₂, -, hresult⟩ := run_bind_eq_ok hrest
  exact ⟨content, notices, hread, by rw [hparse, ofExcept_eq_ok hresult]⟩

theorem generate_eq_ok {host : Host} {t : Template} {name source : Text}
    (h : host.generate t config name = .ok source) : t.generate config name = .ok source := by
  unfold Host.generate at h
  split at h
  · cases h
  · exact h

/-- Compiling a file gives the module of the template in it, wherever it is written. -/
theorem compileFile_eq_ok {out : Option Path} {source : Text}
    (h : (compileFile config src out none).run w = .ok source w') :
    ∃ content notices t, (readText src).run w = .ok content w ∧
      Template.parse src.toText content = (notices, .ok t) ∧
      t.generate config (componentName src.stem) = .ok source := by
  unfold compileFile at h
  obtain ⟨t, w₁, hparse, h⟩ := run_bind_eq_ok h
  obtain ⟨content, notices, hread, hparse⟩ := parseFile_eq_ok hparse
  rw [bind_of_ok (EStateM.run_get w₁)] at h
  obtain ⟨made, w₂, hmade, h⟩ := run_bind_eq_ok h
  refine ⟨content, notices, t, hread, hparse, ?_⟩
  suffices made = source from this ▸ generate_eq_ok (ofExcept_eq_ok hmade)
  cases out with
  | none =>
    cases h
    rfl
  | some out =>
    obtain ⟨_, _, -, h⟩ := run_bind_eq_ok h
    obtain ⟨_, _, -, h⟩ := run_bind_eq_ok h
    obtain ⟨_, _, -, h⟩ := run_bind_eq_ok h
    cases h
    rfl

end Session

/-- The names that a module declares at its top. -/
def declaredNames (config : Config) (name : Text) (imports : List ComponentImport) : List Text :=
  (if config.reactImport then [("React" : Text)] else []) ++
    (imports.map ComponentImport.identifier ++ [name])

namespace ComponentImport

/-- The words of the tag that the name of the component shows. -/
def words (i : ComponentImport) : List Text := shownWords (nameWords i.tag)

/-- A component is named after its tag, which has no capitals. -/
structure Named (i : ComponentImport) : Prop where
  identifier : i.identifier = pascalCase i.tag
  small : ∀ c ∈ i.tag, c.isUpper = false

variable {i j : ComponentImport} {imports : List ComponentImport}

theorem named_of_link {e : Element} (h : e.componentImport = .ok i) : i.Named := by
  obtain ⟨-, ⟨called, htag⟩, hname, -⟩ := componentImport_eq_ok h
  exact ⟨hname, fun c hc => Text.isUpper_of_mem_lower (htag ▸ hc)⟩

theorem Named.identifier_eq_iff (hi : i.Named) (hj : j.Named) :
    i.identifier = j.identifier ↔ i.words = j.words := by
  rw [hi.identifier, hj.identifier]
  exact pascalCase_eq_iff hi.small hj.small

theorem Named.identifier_eq_react_iff (hi : i.Named) :
    i.identifier = "React" ↔ i.words = [("react" : Text)] := by
  have hall : ("react" : Text).all (fun c => !c.isUpper) = true := by decide
  have hreact : (⟨"react", "React", []⟩ : ComponentImport).Named :=
    ⟨by decide, fun c hc => by simpa using List.all_eq_true.mp hall c hc⟩
  exact hi.identifier_eq_iff hreact

theorem nodup_identifiers_iff (h : ∀ i ∈ imports, i.Named) :
    (imports.map identifier).Nodup ↔ (imports.map words).Nodup := by
  unfold List.Nodup
  rw [List.pairwise_map, List.pairwise_map]
  exact List.Pairwise.iff_of_mem fun {i j} hi hj =>
    not_congr ((h i hi).identifier_eq_iff (h j hj))

theorem react_not_mem_iff (h : ∀ i ∈ imports, i.Named) (name : Text) :
    ("React" : Text) ∉ imports.map identifier ++ [name] ↔
      name ≠ "React" ∧ ∀ i ∈ imports, i.words ≠ [("react" : Text)] := by
  rw [List.mem_append, List.mem_singleton, not_or, and_comm, eq_comm]
  refine and_congr Iff.rfl ⟨fun hnot i hi hwords => ?_, fun hnot hmem => ?_⟩
  · exact hnot (List.mem_map.mpr ⟨i, hi, (h i hi).identifier_eq_react_iff.mpr hwords⟩)
  · obtain ⟨i, hi, hname⟩ := List.mem_map.mp hmem
    exact hnot i hi ((h i hi).identifier_eq_react_iff.mp hname)

end ComponentImport

/-- What keeps the names of a module apart: no two imports have tags of the same words, and
none is called as the component or as what the module imports of itself. -/
structure NamesApart (config : Config) (name : Text) (imports : List ComponentImport) : Prop where
  tags : (imports.map ComponentImport.words).Nodup
  component : ∀ i ∈ imports, pascalCase i.tag ≠ name
  react : config.reactImport = true →
    name ≠ "React" ∧ ∀ i ∈ imports, i.words ≠ [("react" : Text)]

theorem nodup_declaredNames_iff {imports : List ComponentImport}
    (hnamed : ∀ i ∈ imports, i.Named) (config : Config) (name : Text) :
    (declaredNames config name imports).Nodup ↔ NamesApart config name imports := by
  have hcomponent : (∀ i ∈ imports, i.identifier ≠ name) ↔ ∀ i ∈ imports, pascalCase i.tag ≠ name :=
    forall₂_congr fun i hi => by rw [(hnamed i hi).identifier]
  have hbehind : (imports.map ComponentImport.identifier ++ [name]).Nodup ↔
      (imports.map ComponentImport.words).Nodup ∧ ∀ i ∈ imports, pascalCase i.tag ≠ name := by
    rw [List.nodup_append, ComponentImport.nodup_identifiers_iff hnamed, ← hcomponent]
    simp
  unfold declaredNames
  cases hconfig : config.reactImport with
  | false =>
    rw [if_neg Bool.false_ne_true, List.nil_append, hbehind]
    refine ⟨fun h => ⟨h.1, h.2, fun htrue => ?_⟩, fun h => ⟨h.tags, h.component⟩⟩
    cases hconfig.symm.trans htrue
  | true =>
    rw [if_pos rfl, List.singleton_append, List.nodup_cons, hbehind,
      ComponentImport.react_not_mem_iff hnamed]
    exact ⟨fun h => ⟨h.2.1, h.2.2, fun _ => h.1⟩, fun h => ⟨h.react hconfig, h.tags, h.component⟩⟩

/-- Whether a component is rendered does not depend on the aliases. -/
theorem exists_component {r : Renderer} {root : Element} {body : Text}
    (h : r.component root = .ok body) (aliases : Table Text) :
    ∃ other, ({ r with aliases := aliases } : Renderer).component root = .ok other := by
  unfold Renderer.component at h ⊢
  cases hchildren : root.children with
  | nil =>
    rw [hchildren] at h
    cases h
  | cons first others =>
    rw [hchildren] at h
    cases hnode : r.node (r.unit ++ r.unit) true first with
    | error f =>
      simp only [hnode] at h
      cases h
    | ok rendered =>
      have hnone : failure? (({ r with aliases := aliases } : Renderer).node (r.unit ++ r.unit)
          true first) = none := by
        rw [Renderer.failure?_node_eq, ← Renderer.failure?_node_eq r (r.unit ++ r.unit) true, hnode]
        rfl
      cases hother : ({ r with aliases := aliases } : Renderer).node (r.unit ++ r.unit) true
          first with
      | error f =>
        rw [hother] at hnone
        cases hnone
      | ok other =>
        simp only [hother]
        exact ⟨_, rfl⟩

/-- A template is compiled with any other imports just the same: none of them is compared
with another one, or with a name that the module declares. -/
theorem Template.exists_generate {t : Template} {config : Config} {name source : Text}
    (h : t.generate config name = .ok source) (imports : List ComponentImport) :
    ∃ other, ({ t with imports := imports } : Template).generate config name = .ok other := by
  obtain ⟨body, hbody, -⟩ := generate_eq_ok h
  obtain ⟨other, hother⟩ : ∃ other, (config.renderer
      ({ t with imports := imports } : Template).aliases).component t.root = .ok other :=
    exists_component hbody _
  refine ⟨moduleText config name other imports, ?_⟩
  unfold generate
  rw [hother]

/-- The head of a compiled module. It imports what the links of the file import and declares
well-formed names. These are distinct if and only if the tags of the links are kept apart,
and each literal denotes the source of its link if and only if that has no quote, backslash
or line end; and the template is compiled with any imports, whether or not this holds. -/
theorem compiled_head {config : Config} {src : Path} {out : Option Path} {w w' : World}
    {source : Text} (h : (Session.compileFile config src out none).run w = .ok source w') :
    ∃ content nodes notices t body, (Session.readText src).run w = .ok content w ∧
      documentNodes src.toText content = .ok nodes ∧
      Template.parse src.toText content = (notices, .ok t) ∧
      (importLinks nodes).map Element.componentImport = t.imports.map .ok ∧
      source = moduleText config (componentName src.stem) body t.imports ∧
      (∀ name ∈ componentName src.stem :: t.imports.map ComponentImport.identifier,
        IsComponentName name) ∧
      ((declaredNames config (componentName src.stem) t.imports).Nodup ↔
        NamesApart config (componentName src.stem) t.imports) ∧
      (∀ i ∈ t.imports,
        (∃ e ∈ importLinks nodes, e.componentImport = .ok i ∧ i.source = (e.attr "href").trim) ∧
        ∃ before after, WholeLines before ∧
          source = before ++ "import " ++ i.identifier ++ " from '" ++
            (i.source ++ '\'' :: after) ∧
          ∀ escapes, Literal escapes (i.source ++ '\'' :: after) i.source after ↔
            Verbatim i.source) ∧
      ∀ imports, ∃ other, ({ t with imports := imports } : Template).generate config
        (componentName src.stem) = .ok other := by
  obtain ⟨content, notices, t, hread, hparse, hgenerate⟩ := Session.compileFile_eq_ok h
  obtain ⟨body, -, hsource⟩ := Template.generate_eq_ok hgenerate
  obtain ⟨nodes, hnodes, hlinks⟩ := imports_of_parse hparse
  have hlink : ∀ i ∈ t.imports, ∃ e ∈ importLinks nodes, e.componentImport = .ok i :=
    fun i hi => exists_link_of_import hlinks hi
  refine ⟨content, nodes, notices, t, body, hread, hnodes, hparse, hlinks, hsource, ?_, ?_, ?_,
    Template.exists_generate hgenerate⟩
  · refine List.forall_mem_cons.mpr ⟨isComponentName_componentName _, fun name hname => ?_⟩
    obtain ⟨i, hi, rfl⟩ := List.mem_map.mp hname
    obtain ⟨e, -, he⟩ := hlink i hi
    exact (componentImport_eq_ok he).2.2.2
  · refine nodup_declaredNames_iff (fun i hi => ?_) _ _
    obtain ⟨e, -, he⟩ := hlink i hi
    exact ComponentImport.named_of_link he
  · intro i hi
    obtain ⟨e, hmem, he⟩ := hlink i hi
    obtain ⟨before, after, hline, hbefore⟩ :=
      hasLine_moduleText hi config (componentName src.stem) body
    refine ⟨⟨e, hmem, he, (componentImport_eq_ok he).1⟩, before, ";\n" ++ after, hbefore, ?_,
      fun escapes => literal_self_iff⟩
    rw [hsource, hline, ComponentImport.line_eq]
    simp only [List.append_assoc]
    rfl

/-! ## Two cards -/

def cardPath : Path := ⟨.slash, ["s", "user-card.html"]⟩

def cardEntries (content : Text) : List (Place × Entry) :=
  [(["s"], .directory), (["s", "user-card.html"], .file (Text.encode content))]

/-- One template file. -/
def cardWorld (content : Text) : World :=
  { cwd := ⟨.slash, []⟩, files := Std.TreeMap.ofList (cardEntries content) compare }

/-- A card of two components, with a digit in a tag. -/
def userCard : Text :=
  "<link rel=import href=./list.html><link rel=import href=@ui/tag name=tag-2>" ++
    "<template><tag-2></tag-2></template>"

def userCardImports : List ComponentImport :=
  [⟨"list", "List", "./list.html"⟩, ⟨"tag-2", "Tag2", "@ui/tag"⟩]

theorem userCard_head : ∃ (source : Text) (w' : World) (before after : Text),
    (Session.compileFile {} cardPath (some ⟨.slash, ["o", "card.jsx"]⟩) none).run
      (cardWorld userCard) = .ok source w' ∧
    (declaredNames {} "UserCard" userCardImports).Nodup ∧
    source = before ++ "import " ++ "Tag2" ++ " from '" ++ ("@ui/tag" ++ '\'' :: after) ∧
    ∀ escapes, Literal escapes ("@ui/tag" ++ '\'' :: after) "@ui/tag" after := by
  have hok : ((Session.compileFile {} cardPath (some ⟨.slash, ["o", "card.jsx"]⟩) none).run'
      (cardWorld userCard)).isSome = true := by decide +kernel
  have hcontent : (Session.readText cardPath).run' (cardWorld userCard) = some userCard := by
    decide +kernel
  have himports : (Template.parse cardPath.toText userCard).2.toOption.map Template.imports =
      some userCardImports := by decide +kernel
  unfold EStateM.run' at hok hcontent
  cases hrun : (Session.compileFile {} cardPath (some ⟨.slash, ["o", "card.jsx"]⟩) none).run
      (cardWorld userCard) with
  | error f w' =>
    rw [hrun] at hok
    cases hok
  | ok source w' =>
    obtain ⟨content, nodes, notices, t, body, hread, -, hparse, -, -, -, hnames, hlines, -⟩ :=
      compiled_head hrun
    simp only [hread, Option.some.injEq] at hcontent
    rw [← hcontent, hparse] at himports
    have himports : t.imports = userCardImports := Option.some.inj himports
    rw [himports] at hnames hlines
    obtain ⟨-, before, after, -, hsource, hliteral⟩ :=
      hlines ⟨"tag-2", "Tag2", "@ui/tag"⟩ (by decide)
    refine ⟨source, w', before, after, rfl, ?_, hsource, fun escapes => ?_⟩
    · exact hnames.mpr ⟨by decide, by decide, fun _ => ⟨by decide, by decide⟩⟩
    · exact (hliteral escapes).mpr (by decide)

/-- A card that imports another one under its own name, from a file with a quote in its name. -/
def borrowedCard : Text :=
  "<link rel=import href=\"./it's\" name=user-card><template><hr></template>"

def borrowedCardModule : Text :=
  "import React from 'react';\nimport UserCard from './it's';\n\n" ++
    "export default function UserCard(props) " ++ ['{'] ++ "\n  return (\n    <hr />\n  );\n" ++
    ['}', '\n']

/-- The module declares its component twice and has a literal that ends too early. -/
theorem borrowedCard_head :
    (Session.compileFile {} cardPath none none).run' (cardWorld borrowedCard) =
      some borrowedCardModule ∧
    (Template.parse cardPath.toText borrowedCard).2.toOption.map Template.imports =
      some [⟨"user-card", "UserCard", "./it's"⟩] ∧
    ¬ (declaredNames {} "UserCard" [⟨"user-card", "UserCard", "./it's"⟩]).Nodup ∧
    ¬ Verbatim "./it's" :=
  ⟨by decide +kernel, by decide +kernel, by decide, by decide⟩

end JsxTemplate
