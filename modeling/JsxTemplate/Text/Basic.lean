/-!
# Text

Everything this library reads or writes is a list of characters, so that each
function on text is a recursion on its characters. Strings appear only where a
program meets the outside world.
-/

namespace JsxTemplate

/-- A text, character by character. -/
abbrev Text := List Char

instance : Coe String Text := ⟨String.toList⟩

namespace Text

/-- What follows `pat` at the start of a text, if the text starts with it. -/
def after? : (pat s : Text) → Option Text
  | [], s => some s
  | _ :: _, [] => none
  | p :: pat, c :: s => if p = c then after? pat s else none

/-- Splits a text at the first place where a recogniser succeeds: what stands
before that place, and what the recogniser leaves. -/
def search (recognise : Text → Option Text) : Text → Option (Text × Text)
  | [] => (recognise []).map fun rest => ([], rest)
  | c :: s =>
    match recognise (c :: s) with
    | some rest => some ([], rest)
    | none => (search recognise s).map fun (before, rest) => (c :: before, rest)

/-- Splits a text around the first occurrence of `sep`. -/
def cut? (sep s : Text) : Option (Text × Text) := search (after? sep) s

/-- Splits a text before its last character with a property. -/
def cutLast? (p : Char → Bool) : Text → Option (Text × Text)
  | [] => none
  | c :: s =>
    match cutLast? p s with
    | some (before, rest) => some (c :: before, rest)
    | none => if p c then some ([], c :: s) else none

/-- The parts of a text between the occurrences of a character. -/
def split (sep : Char) : Text → List Text
  | [] => [[]]
  | c :: s =>
    if c = sep then [] :: split sep s
    else
      match split sep s with
      | [] => [[c]]
      | part :: parts => (c :: part) :: parts

theorem append_of_after? : ∀ {pat s rest : Text}, after? pat s = some rest → s = pat ++ rest
  | [], s, rest, h => by simpa [after?] using h
  | p :: pat, [], rest, h => by simp [after?] at h
  | p :: pat, c :: s, rest, h => by
    by_cases hp : p = c
    · simp only [after?, hp, ↓reduceIte] at h
      rw [append_of_after? h, hp, List.cons_append]
    · simp [after?, hp] at h

@[simp] theorem after?_append (pat rest : Text) : after? pat (pat ++ rest) = some rest := by
  induction pat with
  | nil => simp [after?]
  | cons p pat ih => simp [after?, ih]

/-- A successful search leaves what the recogniser left at the place found. -/
theorem eq_append_of_search {recognise : Text → Option Text} :
    ∀ {s before rest : Text}, search recognise s = some (before, rest) →
      ∃ here, s = before ++ here ∧ recognise here = some rest
  | [], before, rest, h => by
    simp only [search, Option.map_eq_some_iff, Prod.mk.injEq] at h
    obtain ⟨r, hr, rfl, rfl⟩ := h
    exact ⟨[], rfl, hr⟩
  | c :: s, before, rest, h => by
    unfold search at h
    split at h
    · next r hr =>
      simp only [Option.some.injEq, Prod.mk.injEq] at h
      obtain ⟨rfl, rfl⟩ := h
      exact ⟨c :: s, rfl, hr⟩
    · simp only [Option.map_eq_some_iff, Prod.mk.injEq, Prod.exists] at h
      obtain ⟨b, r, hs, rfl, rfl⟩ := h
      obtain ⟨here, hb, hr⟩ := eq_append_of_search hs
      exact ⟨here, by rw [hb, List.cons_append], hr⟩

theorem eq_append_of_cut? {sep s before rest : Text} (h : cut? sep s = some (before, rest)) :
    s = before ++ sep ++ rest := by
  obtain ⟨here, hs, hr⟩ := eq_append_of_search h
  rw [hs, append_of_after? hr, List.append_assoc]

theorem append_of_cutLast? {p : Char → Bool} : ∀ {s before rest : Text},
    cutLast? p s = some (before, rest) → s = before ++ rest
  | [], _, _, h => by simp [cutLast?] at h
  | c :: s, before, rest, h => by
    unfold cutLast? at h
    split at h
    · next b r hb =>
      simp only [Option.some.injEq, Prod.mk.injEq] at h
      rw [← h.1, ← h.2, append_of_cutLast? hb, List.cons_append]
    · split at h
      · simp only [Option.some.injEq, Prod.mk.injEq] at h
        rw [← h.1, ← h.2, List.nil_append]
      · simp at h

end Text

end JsxTemplate
