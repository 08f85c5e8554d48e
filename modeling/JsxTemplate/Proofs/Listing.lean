import JsxTemplate.Proofs.Compiling
import JsxTemplate.Proofs.Text

/-!
# The templates of a directory

A suffix without special characters picks the files whose names end in it, at any
depth below a directory, in the order of their paths.
-/

namespace JsxTemplate

/-- A suffix in which every character stands for itself: it has no slash and none of
the characters of patterns. -/
structure PlainSuffix (suffix : Text) : Prop where
  no_slash : '/' ∉ suffix
  no_star : '*' ∉ suffix
  no_mark : '?' ∉ suffix
  no_bracket : '[' ∉ suffix

namespace Pattern

theorem mem_ends {α : Type} {rest l : List α} : rest ∈ ends l ↔ rest <:+ l := by
  induction l with
  | nil => rw [ends, List.mem_singleton, List.suffix_nil]
  | cons a l ih => rw [ends, List.mem_cons, ih, List.suffix_cons_iff]

theorem marks_of_plain : ∀ {s : Text}, '*' ∉ s → '?' ∉ s → '[' ∉ s → marks s = s.map .char
  | [], _, _, _ => by
    rw [marks]
    rfl
  | c :: s, hstar, hmark, hbracket => by
    rw [List.mem_cons, not_or] at hstar hmark hbracket
    rw [marks, marks_of_plain hstar.2 hmark.2 hbracket.2, List.map_cons]
    · exact Ne.symm hstar.1
    · exact Ne.symm hmark.1
    · exact Ne.symm hbracket.1

theorem fits_chars {s name : Text} : fits (s.map .char) name = true ↔ name = s := by
  induction s generalizing name with
  | nil => rw [List.map_nil, fits, List.isEmpty_iff]
  | cons c s ih =>
    cases name with
    | nil => simp [fits]
    | cons d name =>
      rw [List.map_cons, fits, Bool.and_eq_true, decide_eq_true_iff, ih, List.cons.injEq,
        @eq_comm _ c d]

/-- A star before characters picks the names that end in them. -/
theorem fits_run_chars {s name : Text} :
    fits (.run :: s.map .char) name = true ↔ s <:+ name := by
  rw [fits, List.any_eq_true]
  constructor
  · rintro ⟨rest, hrest, hfits⟩
    exact fits_chars.mp hfits ▸ mem_ends.mp hrest
  · exact fun h => ⟨s, mem_ends.mpr h, fits_chars.mpr rfl⟩

/-- At any depth a part picks by the last name. -/
theorem picks_deep {marks : List Mark} {names : List Text} :
    picks [.deep, .name marks] names = true ↔
      ∃ above name, names = above ++ [name] ∧ fits marks name = true := by
  rw [picks, List.any_eq_true]
  constructor
  · rintro ⟨rest, hrest, hpicks⟩
    obtain ⟨above, rfl⟩ := mem_ends.mp hrest
    match rest, hpicks with
    | [name], hpicks => exact ⟨above, name, rfl, by simpa [picks] using hpicks⟩
    | name :: next :: rest, hpicks => simp [picks] at hpicks
  · rintro ⟨above, name, rfl, hfits⟩
    exact ⟨[name], mem_ends.mpr (List.suffix_append _ _), by simp [picks, hfits]⟩

theorem split_of_no_sep {sep : Char} : ∀ {s : Text}, sep ∉ s → s.split sep = [s]
  | [], _ => rfl
  | c :: s, h => by
    rw [List.mem_cons, not_or] at h
    rw [Text.split, if_neg (Ne.symm h.1), split_of_no_sep h.2]

/-- A star before a text without stars is the only one. -/
theorem part_of_star {s : Text} (hne : s ≠ ['*']) (hstar : '*' ∉ s) :
    part ('*' :: s) = .ok (.name (marks ('*' :: s))) := by
  have hcut : Text.cut? ['*', '*'] ('*' :: s) = none := by
    refine (Text.cut?_eq_none_iff (List.cons_ne_nil _ _)).mpr ?_
    rintro ⟨before, after, hsplit⟩
    cases before with
    | nil =>
      obtain ⟨-, hs⟩ := List.cons_eq_cons.mp hsplit
      exact hstar (hs ▸ List.mem_cons_self)
    | cons c before =>
      obtain ⟨-, hs⟩ := List.cons_eq_cons.mp hsplit
      exact hstar (hs ▸ by simp)
  unfold part
  rw [if_neg, if_neg, hcut]
  · rfl
  · simp
  · simpa using hne

/-- The pattern of a plain suffix is a star and the characters of the suffix. -/
theorem parse_plain {suffix : Text} (h : PlainSuffix suffix) :
    parse ('*' :: suffix) = .ok [.name (.run :: suffix.map .char)] := by
  have hslash : '/' ∉ '*' :: suffix := by
    rw [List.mem_cons, not_or]
    exact ⟨by decide, h.no_slash⟩
  have hlast : ('*' :: suffix).getLast? ≠ some '/' := fun hlast =>
    hslash (List.mem_of_getLast? hlast)
  have hne : suffix ≠ ['*'] := by
    rintro rfl
    exact h.no_star List.mem_cons_self
  have hparts : (Path.parse ('*' :: suffix)).parts = ['*' :: suffix] := by
    unfold Path.parse
    rw [split_of_no_sep hslash]
    exact List.filter_eq_self.mpr (by simp)
  have hmarks : marks ('*' :: suffix) = .run :: suffix.map .char := by
    rw [marks, marks_of_plain h.no_star h.no_mark h.no_bracket]
  unfold parse
  simp only [hparts, if_neg hlast]
  rw [List.mapM_cons, part_of_star hne h.no_star, hmarks]
  rfl

end Pattern

namespace Store

variable {s : Store} {cwd src : Path} {suffix : Text}

/-- A file below a directory whose name ends in a suffix. -/
structure Listed (s : Store) (src : Path) (suffix : Text) (t : Path) : Prop where
  root : t.root = src.root
  below : ∃ names, names ≠ [] ∧ t.parts = src.parts ++ names
  ends : suffix <:+ t.name
  file : ∃ bytes, s.at? t.parts = some (.file bytes)

/-- The files that are found, by their places, are among the entries, in their order. -/
theorem map_filesBelow (dir : Place) (pattern : List Pattern.Part) :
    (s.filesBelow dir pattern).map (dir ++ ·) =
      (s.toList.filter fun x => x.2 ≠ .directory && (dir.isPrefixOf x.1 &&
        Pattern.picks pattern (x.1.drop dir.length))).map Prod.fst := by
  unfold filesBelow
  induction s.toList with
  | nil => rfl
  | cons x entries ih =>
    obtain ⟨place, entry⟩ := x
    cases entry with
    | directory => exact ih
    | file bytes =>
      cases hpick : dir.isPrefixOf place && Pattern.picks pattern (place.drop dir.length) with
      | false =>
        rw [List.filterMap_cons_none (by simp only [hpick]; rfl), List.filter_cons_of_neg
          (by simp only [hpick, Bool.and_false]; exact nofun), ih]
      | true =>
        obtain ⟨below, rfl⟩ := List.isPrefixOf_iff_prefix.mp (Bool.and_eq_true_iff.mp hpick).1
        rw [List.filterMap_cons_some (by simp only [hpick]; rfl), List.filter_cons_of_pos
          (by simp only [hpick]; rfl), List.map_cons, List.map_cons, ih, List.drop_left]

theorem filesBelow_ordered {dir : Place} {pattern : List Pattern.Part} :
    ((s.filesBelow dir pattern).map (dir ++ ·)).Pairwise fun p q => compare p q = .lt := by
  rw [map_filesBelow, List.pairwise_map]
  exact Std.TreeMap.ordered_keys_toList.sublist List.filter_sublist

theorem mem_filesBelow {dir below : Place} {pattern : List Pattern.Part} (hne : below ≠ []) :
    below ∈ s.filesBelow dir pattern ↔
      Pattern.picks pattern below = true ∧ ∃ bytes, s.at? (dir ++ below) = some (.file bytes) := by
  have hmap : below ∈ s.filesBelow dir pattern ↔
      dir ++ below ∈ (s.filesBelow dir pattern).map (dir ++ ·) := by
    rw [List.mem_map]
    exact ⟨fun h => ⟨below, h, rfl⟩, fun ⟨_, h, he⟩ => List.append_cancel_left he ▸ h⟩
  have hplace : dir ++ below ≠ [] := fun h => hne (List.append_eq_nil_iff.mp h).2
  rw [hmap, map_filesBelow, List.mem_map]
  constructor
  · rintro ⟨⟨place, entry⟩, hmem, hsame⟩
    obtain ⟨hentry, hpick⟩ := List.mem_filter.mp hmem
    simp only [Bool.and_eq_true, decide_eq_true_iff] at hpick
    subst hsame
    rw [List.drop_left] at hpick
    refine ⟨hpick.2.2, ?_⟩
    cases entry with
    | directory => exact absurd rfl hpick.1
    | file bytes =>
      refine ⟨bytes, ?_⟩
      unfold at?
      rw [if_neg hplace]
      exact Std.TreeMap.mem_toList_iff_getElem?_eq_some.mp hentry
  · rintro ⟨hpick, bytes, hfile⟩
    refine ⟨(dir ++ below, .file bytes), List.mem_filter.mpr ?_, rfl⟩
    refine ⟨mem_toList_of_at? hplace hfile, ?_⟩
    simp only [List.drop_left, hpick, Bool.and_true, Bool.and_eq_true, decide_eq_true_iff]
    exact ⟨nofun, List.isPrefixOf_iff_prefix.mpr (List.prefix_append _ _)⟩

theorem locate_of_isDirectory (hsrc : src.Straight) (hdir : s.isDirectory cwd src = true) :
    s.locate cwd src = .ok src.parts ∧ s.at? src.parts = some .directory := by
  obtain ⟨hat, hshort, hdirs⟩ := lookup_eq_ok hsrc (lookup_of_isDirectory hdir)
  exact ⟨locate_of_directories s cwd hsrc hshort hdirs, hat⟩

theorem picks_of_mem_filesBelow {dir below : Place} {pattern : List Pattern.Part}
    (h : below ∈ s.filesBelow dir pattern) : Pattern.picks pattern below = true := by
  unfold filesBelow at h
  obtain ⟨⟨place, entry⟩, -, hpick⟩ := List.mem_filterMap.mp h
  cases entry with
  | directory => cases hpick
  | file bytes =>
    simp only at hpick
    split at hpick
    · next hboth =>
      cases hpick
      exact (Bool.and_eq_true_iff.mp hboth).2
    · cases hpick

/-- The files below a directory that a plain suffix picks, each once, in order. -/
theorem select_plain (hsrc : src.Straight) (hdir : s.isDirectory cwd src = true)
    (suffix : Text) :
    (s.select cwd src [.deep, .name (.run :: suffix.map .char)]).Pairwise
        (fun p q => compare p q = .lt) ∧
      ∀ t, t ∈ s.select cwd src [.deep, .name (.run :: suffix.map .char)] ↔
        s.Listed src suffix t := by
  obtain ⟨hloc, hat⟩ := locate_of_isDirectory hsrc hdir
  have hselect : s.select cwd src [.deep, .name (.run :: suffix.map .char)] =
      (s.filesBelow src.parts [.deep, .name (.run :: suffix.map .char)]).map
        fun below => { src with parts := src.parts ++ below } := by
    unfold select
    rw [hloc]
    exact if_pos hat
  rw [hselect]
  constructor
  · have hordered := @filesBelow_ordered s src.parts [.deep, .name (.run :: suffix.map .char)]
    rw [List.pairwise_map] at hordered ⊢
    refine hordered.imp fun {a b} hlt => ?_
    have hroot := @Path.compare_of_root ⟨src.root, src.parts ++ a⟩ ⟨src.root, src.parts ++ b⟩ rfl
    exact hroot.trans hlt
  · intro t
    rw [List.mem_map]
    constructor
    · rintro ⟨below, hmem, rfl⟩
      obtain ⟨above, name, rfl, hfits⟩ := Pattern.picks_deep.mp (picks_of_mem_filesBelow hmem)
      have hne : above ++ [name] ≠ [] := by simp
      obtain ⟨-, hfile⟩ := (mem_filesBelow hne).mp hmem
      refine ⟨rfl, ⟨_, hne, rfl⟩, ?_, hfile⟩
      rw [Path.name_append _ _ hne, List.getLast_concat]
      exact Pattern.fits_run_chars.mp hfits
    · rintro ⟨hroot, ⟨names, hne, hparts⟩, hends, hfile⟩
      refine ⟨names, (mem_filesBelow hne).mpr ⟨Pattern.picks_deep.mpr ?_, hparts ▸ hfile⟩, ?_⟩
      · refine ⟨names.dropLast, names.getLast hne, (List.dropLast_concat_getLast hne).symm, ?_⟩
        rw [Pattern.fits_run_chars, ← Path.name_append t.root src.parts hne, ← hparts]
        exact hends
      · rw [← hroot, ← hparts]

end Store

end JsxTemplate
