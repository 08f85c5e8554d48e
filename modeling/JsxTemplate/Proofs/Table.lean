import JsxTemplate.Table
import Mathlib.Data.List.Induction

/-!
# What a table of entries holds

A table that is built from entries has each name once, where it first came up,
with the value it was given last.
-/

namespace JsxTemplate.Table

variable {α : Type}

theorem nodup_eraseDups (keys : List Text) : keys.eraseDups.Nodup := by
  cases keys with
  | nil => exact List.nodup_nil
  | cons key keys =>
    rw [List.eraseDups_cons, List.nodup_cons]
    refine ⟨fun hmem => ?_, nodup_eraseDups _⟩
    have hkept := (List.mem_filter.mp (List.mem_eraseDups.mp hmem)).2
    simp at hkept
termination_by keys.length
decreasing_by
  have := List.length_filter_le (fun k => !k == key) keys
  rw [List.length_cons]
  omega

/-- A name that is there takes the new value at its place. -/
theorem put_of_mem {key : Text} (value : α) (f : Text → α) :
    ∀ {keys : List Text}, keys.Nodup → key ∈ keys →
      put key value (keys.map fun k => (k, f k)) =
        keys.map fun k => (k, if k = key then value else f k)
  | [], _, hmem => absurd hmem List.not_mem_nil
  | k :: keys, hnodup, hmem => by
    rw [List.nodup_cons] at hnodup
    rw [List.map_cons, List.map_cons, put]
    by_cases hk : k = key
    · have hother : ∀ k' ∈ keys, k' ≠ key := fun k' hk' he => hnodup.1 (hk ▸ he ▸ hk')
      rw [if_pos hk, if_pos hk]
      refine congrArg _ (List.map_congr_left fun k' hk' => ?_)
      rw [if_neg (hother k' hk')]
    · rw [if_neg hk, if_neg hk]
      exact congrArg _ (put_of_mem value f hnodup.2
        ((List.mem_cons.mp hmem).resolve_left (Ne.symm hk)))

/-- A name that is not there comes last. -/
theorem put_of_not_mem {key : Text} (value : α) :
    ∀ {t : Table α}, key ∉ t.map Prod.fst → put key value t = t ++ [(key, value)]
  | [], _ => rfl
  | (k, v) :: t, hmem => by
    rw [List.map_cons, List.mem_cons, not_or] at hmem
    rw [put, if_neg (Ne.symm hmem.1), put_of_not_mem value hmem.2, List.cons_append]

theorem ofEntries_append (entries : List (Text × α)) (key : Text) (value : α) :
    ofEntries (entries ++ [(key, value)]) = put key value (ofEntries entries) := by
  rw [ofEntries, List.foldl_append]
  rfl

/-- The value that a name is given last, or the one it had before. -/
def lastValue (key : Text) (before : α) : List (Text × α) → α
  | [] => before
  | (k, v) :: entries => lastValue key (if k = key then v else before) entries

theorem lastValue_append (key : Text) (before : α) (entries : List (Text × α)) (k : Text) (v : α) :
    lastValue key before (entries ++ [(k, v)]) =
      if k = key then v else lastValue key before entries := by
  induction entries generalizing before with
  | nil => rfl
  | cons entry entries ih => exact ih _

/-- The table of some entries, described: each name once and in the order of
first mention, with the last value that it was given. -/
theorem ofEntries_eq (before : α) (entries : List (Text × α)) :
    ofEntries entries = (entries.map Prod.fst).eraseDups.map fun key =>
      (key, lastValue key before entries) := by
  induction entries using List.reverseRecOn with
  | nil => rfl
  | append_singleton entries entry ih =>
    obtain ⟨key, value⟩ := entry
    rw [ofEntries_append, ih, List.map_append, List.eraseDups_append]
    simp only [lastValue_append]
    by_cases hmem : key ∈ entries.map Prod.fst
    · have hnone : ([(key, value)].map Prod.fst).removeAll (entries.map Prod.fst) = [] := by
        simpa [List.removeAll] using hmem
      rw [hnone, List.eraseDups_nil, List.append_nil, put_of_mem value _ (nodup_eraseDups _)
        (List.mem_eraseDups.mpr hmem)]
      refine List.map_congr_left fun k _ => ?_
      simp only [eq_comm]
    · have hone : ([(key, value)].map Prod.fst).removeAll (entries.map Prod.fst) = [key] := by
        simpa [List.removeAll] using hmem
      have hkeys : key ∉ ((entries.map Prod.fst).eraseDups.map fun k =>
          (k, lastValue k before entries)).map Prod.fst := by
        rw [List.map_map]
        simpa using hmem
      rw [hone, put_of_not_mem value hkeys, List.map_append]
      congr 1
      · refine List.map_congr_left fun k hk => ?_
        have hne : key ≠ k := fun he => hmem (he ▸ List.mem_eraseDups.mp hk)
        rw [if_neg hne]
      · simp [List.eraseDups_cons]

theorem map_fst_ofEntries (entries : List (Text × α)) :
    (ofEntries entries).map Prod.fst = (entries.map Prod.fst).eraseDups := by
  cases entries with
  | nil => rfl
  | cons entry entries => rw [ofEntries_eq entry.2, List.map_map, Function.comp_def, List.map_id']

theorem isSome_get?_iff {key : Text} {t : Table α} : (t.get? key).isSome ↔ key ∈ t.map Prod.fst := by
  induction t with
  | nil => simp [get?]
  | cons entry t ih =>
    rw [get?, List.map_cons, List.mem_cons, ← ih]
    split
    · next hk => exact iff_of_true rfl (.inl hk.symm)
    · next hk => exact ⟨.inr, fun h => h.resolve_left (Ne.symm hk)⟩

/-- Entries with distinct names are their own table. -/
theorem ofEntries_of_nodup {entries : List (Text × α)} (h : (entries.map Prod.fst).Nodup) :
    ofEntries entries = entries := by
  induction entries using List.reverseRecOn with
  | nil => rfl
  | append_singleton entries entry ih =>
    obtain ⟨key, value⟩ := entry
    rw [List.map_append, List.nodup_append] at h
    have hmem : key ∉ entries.map Prod.fst := fun hin =>
      h.2.2 key hin key (by simp) rfl
    rw [ofEntries_append, ih h.1, put_of_not_mem value hmem]

end JsxTemplate.Table
