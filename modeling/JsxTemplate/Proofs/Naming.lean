import JsxTemplate.Proofs.Heads

/-!
# Names that can be used

The name made for a template is always that of a component, and it is made into itself
again. What stands between the words of a name is lost: a name that is parted by separators
is made part by part, so that two names which differ in their separators come to the same.
-/

namespace JsxTemplate.Jsx

/-! ## Words and separators -/

/-- Characters that part words, and at least one of them. -/
structure IsSeparator (sep : Text) : Prop where
  filled : sep ≠ []
  apart : ∀ c ∈ sep, c.isAlphanum = false

theorem nameWords_cons_of_separator {c : Char} (hc : c.isAlphanum = false) (s : Text) :
    nameWords (c :: s) = nameWords s := by
  rw [nameWords.eq_def (c :: s)]
  exact if_neg (Bool.eq_false_iff.mp hc)

theorem nameWords_separators {sep : Text} (hsep : ∀ c ∈ sep, c.isAlphanum = false) (s : Text) :
    nameWords (sep ++ s) = nameWords s := by
  induction sep with
  | nil => rfl
  | cons c sep ih =>
    obtain ⟨hc, hsep⟩ := List.forall_mem_cons.mp hsep
    rw [List.cons_append, nameWords_cons_of_separator hc, ih hsep]

/-- A letter or digit in front of a separator or the end is a word of its own. -/
theorem nameWords_cons_of_apart {c : Char} {s : Text} (hc : c.isAlphanum = true)
    (hs : s.head?.all (fun d => !d.isAlphanum) = true) :
    nameWords (c :: s) = [c] :: nameWords s := by
  rw [nameWords.eq_def (c :: s)]
  simp only [hc, ↓reduceIte]
  split
  · next d s word words hwords =>
    have hd : d.isAlphanum = false := by simpa using hs
    rw [hwords, if_neg (Bool.eq_false_iff.mp hd)]
  · rfl

/-- A letter or digit in front of another one begins the word of that one. -/
theorem nameWords_cons_of_joined {c d : Char} (hc : c.isAlphanum = true)
    (hd : d.isAlphanum = true) (s : Text) :
    ∃ word words, nameWords (d :: s) = word :: words ∧
      nameWords (c :: d :: s) = (c :: word) :: words := by
  have hfilled : ∃ word words, nameWords (d :: s) = word :: words := by
    rcases nameWords_cons hd s with h | ⟨word, words, -, h⟩
    · exact ⟨_, _, h⟩
    · exact ⟨_, _, h⟩
  obtain ⟨word, words, hwords⟩ := hfilled
  refine ⟨word, words, hwords, ?_⟩
  rw [nameWords.eq_def (c :: d :: s)]
  simp only [hc, hd, hwords, ↓reduceIte]

/-- A separator parts the words before it from those behind it. -/
theorem nameWords_append_cons {d : Char} (hd : d.isAlphanum = false) (b : Text) :
    ∀ a : Text, nameWords (a ++ d :: b) = nameWords a ++ nameWords b
  | [] => nameWords_cons_of_separator hd b
  | c :: a => by
    have ih := nameWords_append_cons hd b a
    rw [List.cons_append]
    by_cases hc : c.isAlphanum = true
    · cases a with
      | nil =>
        have halone : nameWords [c] = [[c]] := nameWords_cons_of_apart hc rfl
        rw [nameWords_cons_of_apart hc (by simp [hd]), ih, halone]
        rfl
      | cons e a =>
        by_cases he : e.isAlphanum = true
        · obtain ⟨word, words, hwords, hjoined⟩ := nameWords_cons_of_joined hc he a
          obtain ⟨word', words', hwords', hjoined'⟩ :=
            nameWords_cons_of_joined hc he (a ++ d :: b)
          rw [List.cons_append, hwords', hwords, List.cons_append] at ih
          obtain ⟨rfl, rfl⟩ := List.cons_eq_cons.mp ih
          rw [List.cons_append, hjoined', hjoined, List.cons_append]
        · have he : e.isAlphanum = false := Bool.eq_false_iff.mpr he
          rw [nameWords_cons_of_apart hc (by simp [he]), ih,
            nameWords_cons_of_apart hc (by simp [he]), List.cons_append]
    · have hc : c.isAlphanum = false := Bool.eq_false_iff.mpr hc
      rw [nameWords_cons_of_separator hc, ih, nameWords_cons_of_separator hc]

theorem nameWords_append {a sep : Text} (hsep : IsSeparator sep) (b : Text) :
    nameWords (a ++ sep ++ b) = nameWords a ++ nameWords b := by
  obtain ⟨d, sep, rfl⟩ := List.exists_cons_of_ne_nil hsep.filled
  obtain ⟨hd, hrest⟩ := List.forall_mem_cons.mp hsep.apart
  rw [List.append_assoc, List.cons_append, nameWords_append_cons hd, nameWords_separators hrest]

/-- Letters and digits alone are one word. -/
theorem nameWords_of_alphanum {c : Char} {s : Text} (h : ∀ d ∈ c :: s, d.isAlphanum = true) :
    nameWords (c :: s) = [c :: s] := by
  induction s generalizing c with
  | nil => exact nameWords_cons_of_apart (h c List.mem_cons_self) rfl
  | cons d s ih =>
    obtain ⟨hc, hrest⟩ := List.forall_mem_cons.mp h
    obtain ⟨word, words, hwords, hjoined⟩ :=
      nameWords_cons_of_joined hc (hrest d List.mem_cons_self) s
    rw [ih hrest] at hwords
    obtain ⟨rfl, rfl⟩ := List.cons_eq_cons.mp hwords
    exact hjoined

/-! ## Names that have been made -/

theorem pascalCase_append {a sep : Text} (hsep : IsSeparator sep) (b : Text) :
    pascalCase (a ++ sep ++ b) = pascalCase a ++ pascalCase b := by
  rw [pascalCase, nameWords_append hsep, List.flatMap_append]
  rfl

theorem toUpper_of_isUpper {c : Char} (h : c.isUpper = true) : c.toUpper = c :=
  of_ascii (fun c => c.isUpper = true → c.toUpper = c) (by decide +kernel)
    (Nat.lt_of_le_of_lt (Text.toNat_of_isUpper h).2 (by decide)) h

/-- The name of a component is made into itself. -/
theorem componentName_of_isComponentName {name : Text} (h : IsComponentName name) :
    componentName name = name := by
  obtain ⟨c, rest, rfl, hc, hrest⟩ := h
  have hletters : ∀ d ∈ c :: rest, d.isAlphanum = true := by
    refine List.forall_mem_cons.mpr ⟨?_, hrest⟩
    show ((c.isUpper || c.isLower) || c.isDigit) = true
    rw [hc]
    rfl
  have hsame : pascalCase (c :: rest) = c :: rest := by
    rw [pascalCase, nameWords_of_alphanum hletters, List.flatMap_singleton, Text.capitalize,
      toUpper_of_isUpper hc]
  have hdigit : c.isDigit = false :=
    of_ascii (fun c => c.isUpper = true → c.isDigit = false) (by decide +kernel)
      (isAlphanum_lt (hletters c List.mem_cons_self)) hc
  rw [componentName, hsame, isIdentifier, hdigit]
  rfl

/-- The same text but for its separators: the parts between some of them are the same. -/
inductive Reseparated : Text → Text → Prop
  | refl (s : Text) : Reseparated s s
  | parted {s t sep sep' : Text} (part : Text) (hsep : IsSeparator sep) (hsep' : IsSeparator sep')
      (h : Reseparated s t) : Reseparated (part ++ sep ++ s) (part ++ sep' ++ t)

theorem Reseparated.pascalCase_eq {s t : Text} (h : Reseparated s t) :
    pascalCase s = pascalCase t := by
  induction h with
  | refl s => rfl
  | parted part hsep hsep' _ ih => rw [pascalCase_append hsep, pascalCase_append hsep', ih]

/-- Whatever a template is called, the name of its component is a capital with letters and
digits behind it and stays when it is made again. Names are made part by part, so that
separators make no difference. -/
theorem names_usable :
    (∀ s : Text, IsComponentName (componentName s)) ∧
    (∀ s : Text, componentName (componentName s) = componentName s) ∧
    (∀ a sep b : Text, sep ≠ [] → (∀ c ∈ sep, c.isAlphanum = false) →
      pascalCase (a ++ sep ++ b) = pascalCase a ++ pascalCase b) ∧
    ∀ s t : Text, Reseparated s t →
      pascalCase s = pascalCase t ∧ componentName s = componentName t := by
  refine ⟨isComponentName_componentName, fun s => ?_, fun a sep b hne hsep => ?_, fun s t h => ?_⟩
  · exact componentName_of_isComponentName (isComponentName_componentName s)
  · exact pascalCase_append ⟨hne, hsep⟩ b
  · exact ⟨h.pascalCase_eq, by rw [componentName, componentName, h.pascalCase_eq]⟩

/-- Two spellings of one name, apart in every separator. -/
theorem userCard_named :
    IsSeparator " - ".toList ∧
      pascalCase ("user" ++ " - ".toList ++ "card_v2") = pascalCase "user" ++ pascalCase "card_v2" ∧
      Reseparated "user-card_v2" "user card...v2" ∧
      componentName "user-card_v2" = componentName "user card...v2" ∧
      componentName "user-card_v2" = "UserCardV2" := by
  have hsep : ∀ sep : Text, sep ≠ [] → sep.all (fun c => !c.isAlphanum) = true →
      IsSeparator sep := fun _ hne hall =>
    ⟨hne, fun c hc => by simpa using List.all_eq_true.mp hall c hc⟩
  have hspaced : IsSeparator " - ".toList := hsep _ (by decide) (by decide)
  have hparted : Reseparated "user-card_v2" "user card...v2" :=
    .parted "user" (hsep ['-'] (by decide) (by decide))
      (hsep [' '] (by decide) (by decide))
      (.parted "card" (hsep ['_'] (by decide) (by decide))
        (hsep ['.', '.', '.'] (by decide) (by decide)) (.refl "v2"))
  obtain ⟨-, -, happend, hsame⟩ := names_usable
  exact ⟨hspaced, happend _ _ _ hspaced.filled hspaced.apart, hparted, (hsame _ _ hparted).2,
    by decide⟩

end JsxTemplate.Jsx
