import JsxTemplate.Proofs.Listing

/-!
# Stores that grow

Making directories and writing files takes nothing away: a directory stays one, and a
file stays a file, if perhaps with other bytes. So a path that has led somewhere leads
there still, a directory that has been made need not be made again, and a pattern picks
what it has picked before and perhaps more. Paths may have double dots here.
-/

namespace JsxTemplate

namespace Store

variable {s s₁ s' : Store} {cwd p : Path} {place q : Place} {bytes : Text.Bytes}

/-- Directories are still there, and files too, whatever they hold. -/
structure Grown (s s' : Store) : Prop where
  directories : ∀ q : Place, s[q]? = some .directory → s'[q]? = some .directory
  files : ∀ (q : Place) bytes, s[q]? = some (.file bytes) → ∃ bytes', s'[q]? = some (.file bytes')

namespace Grown

theorem refl (s : Store) : Grown s s := ⟨fun _ h => h, fun _ bytes h => ⟨bytes, h⟩⟩

theorem trans (h : Grown s s₁) (h' : Grown s₁ s') : Grown s s' where
  directories q hq := h'.directories q (h.directories q hq)
  files q bytes hq := by
    obtain ⟨bytes₁, hq₁⟩ := h.files q bytes hq
    exact h'.files q bytes₁ hq₁

theorem at?_directory (h : Grown s s') (hq : s.at? q = some .directory) :
    s'.at? q = some .directory := by
  unfold at? at hq ⊢
  split
  · rfl
  · next hne =>
    rw [if_neg hne] at hq
    exact h.directories q hq

theorem at?_file (h : Grown s s') (hq : s.at? q = some (.file bytes)) :
    ∃ bytes', s'.at? q = some (.file bytes') := by
  have hne := place_ne_nil_of_file hq
  unfold at? at hq ⊢
  rw [if_neg hne] at hq ⊢
  exact h.files q bytes hq

/-- Names lead where they have led. -/
theorem follow (h : Grown s s') : ∀ {names : List Text} {start : Place},
    s.follow start names = .ok place → s'.follow start names = .ok place
  | [], start, hfollow => hfollow
  | name :: names, start, hfollow => by
    rw [Store.follow] at hfollow ⊢
    cases hstart : s.at? start with
    | none =>
      rw [hstart] at hfollow
      cases hfollow
    | some entry =>
      rw [hstart] at hfollow
      cases entry with
      | file bytes => cases hfollow
      | directory =>
        rw [h.at?_directory hstart]
        simp only at hfollow ⊢
        split at hfollow
        · next hup =>
          rw [if_pos hup]
          exact h.follow hfollow
        · next hup =>
          rw [if_neg hup]
          split at hfollow
          · cases hfollow
          · next hlen =>
            rw [if_neg hlen]
            exact h.follow hfollow

theorem locate (h : Grown s s') (hp : s.locate cwd p = .ok place) :
    s'.locate cwd p = .ok place := by
  unfold Store.locate at hp ⊢
  split at hp
  · cases hp
  · next hlen =>
    rw [if_neg hlen]
    split at hp
    · exact h.follow hp
    · exact h.follow hp

end Grown

theorem lookup_eq_ok_iff {entry : Entry} :
    s.lookup cwd p = .ok entry ↔ ∃ place, s.locate cwd p = .ok place ∧ s.at? place = some entry := by
  unfold lookup
  cases s.locate cwd p with
  | error r => simp
  | ok place =>
    cases hat : s.at? place with
    | none => simp [hat]
    | some found => simp [hat]

theorem exists_place_of_read (h : s.read cwd p = .ok bytes) :
    ∃ place, s.locate cwd p = .ok place ∧ s.at? place = some (.file bytes) :=
  lookup_eq_ok_iff.mp (read_eq_ok_iff.mp h)

theorem read_of_place (hplace : s.locate cwd p = .ok place)
    (hat : s.at? place = some (.file bytes)) : s.read cwd p = .ok bytes :=
  read_eq_ok_iff.mpr (lookup_eq_ok_iff.mpr ⟨place, hplace, hat⟩)

theorem Grown.lookup_directory (h : Grown s s') (hp : s.lookup cwd p = .ok .directory) :
    s'.lookup cwd p = .ok .directory := by
  obtain ⟨place, hplace, hat⟩ := lookup_eq_ok_iff.mp hp
  exact lookup_eq_ok_iff.mpr ⟨place, h.locate hplace, h.at?_directory hat⟩

/-! ## Making directories -/

/-- Directories have been put where nothing was, and nothing else has changed. -/
def Added (s s' : Store) : Prop :=
  ∀ q : Place, s'[q]? = s[q]? ∨ s[q]? = none ∧ s'[q]? = some .directory

namespace Added

theorem refl (s : Store) : Added s s := fun _ => .inl rfl

theorem trans (h : Added s s₁) (h' : Added s₁ s') : Added s s' := by
  intro q
  rcases h q with hq | ⟨hnone, hdir⟩
  · rw [← hq]
    exact h' q
  · rcases h' q with hq' | ⟨hnone', -⟩
    · exact .inr ⟨hnone, hq'.trans hdir⟩
    · rw [hdir] at hnone'
      cases hnone'

theorem grown (h : Added s s') : Grown s s' where
  directories q hq := by
    rcases h q with hsame | ⟨hnone, -⟩
    · rw [hsame, hq]
    · rw [hq] at hnone
      cases hnone
  files q bytes hq := by
    rcases h q with hsame | ⟨hnone, -⟩
    · exact ⟨bytes, by rw [hsame, hq]⟩
    · rw [hq] at hnone
      cases hnone

theorem at? (h : Added s s') (q : Place) :
    s'.at? q = s.at? q ∨ s.at? q = none ∧ s'.at? q = some .directory := by
  unfold Store.at?
  by_cases hq : q = []
  · exact .inl (by rw [if_pos hq, if_pos hq])
  · rw [if_neg hq, if_neg hq]
    exact h q

theorem file (h : Added s s') (q : Place) (bytes : Text.Bytes) :
    s'.at? q = some (.file bytes) ↔ s.at? q = some (.file bytes) := by
  rcases h.at? q with hsame | ⟨hnone, hdir⟩
  · rw [hsame]
  · rw [hnone, hdir]
    exact ⟨nofun, nofun⟩

end Added

theorem getElem?_insert {entry : Entry} :
    (s.insert place entry)[q]? = if q = place then some entry else s[q]? := by
  rw [Std.TreeMap.getElem?_insert]
  simp only [Std.compare_eq_iff_eq, @eq_comm _ place q]

theorem getElem?_of_at? (hne : place ≠ []) : s[place]? = s.at? place := by
  unfold at?
  rw [if_neg hne]

theorem makeDirectory_added (h : s.makeDirectory cwd p = .ok s') :
    Added s s' ∧ s'.lookup cwd p = .ok .directory := by
  unfold makeDirectory at h
  split at h
  · cases h
  · next place hplace =>
    split at h
    · next hnone =>
      cases h
      have hne : place ≠ [] := by
        rintro rfl
        cases hnone
      have hadded : Added s (s.insert place .directory) := by
        intro q
        rw [getElem?_insert]
        split
        · next hq =>
          rw [hq, getElem?_of_at? hne]
          exact .inr ⟨hnone, rfl⟩
        · exact .inl rfl
      refine ⟨hadded, lookup_eq_ok_iff.mpr ⟨place, hadded.grown.locate hplace, ?_⟩⟩
      rw [at?_insert hne, if_pos rfl]
    · cases h

theorem ensureDirectory_added (h : s.ensureDirectory cwd p = .ok s') :
    Added s s' ∧ s'.lookup cwd p = .ok .directory := by
  unfold ensureDirectory at h
  split at h
  · next hmade =>
    cases h
    exact makeDirectory_added hmade
  · split at h
    · next hdir =>
      cases h
      exact ⟨.refl s, lookup_of_isDirectory hdir⟩
    · cases h

theorem makeDirectories_added : ∀ {n : Nat} {s' : Store}, s.makeDirectories cwd p n = .ok s' →
    Added s s' ∧
      (n ≠ 0 → s'.lookup cwd { p with parts := p.parts.take n } = .ok .directory)
  | 0, s', h => by
    cases h
    exact ⟨.refl s, fun hn => absurd rfl hn⟩
  | n + 1, s', h => by
    rw [makeDirectories] at h
    split at h
    · split at h
      · next s₁ habove =>
        obtain ⟨hadded, hdir⟩ := ensureDirectory_added h
        exact ⟨(makeDirectories_added habove).1.trans hadded, fun _ => hdir⟩
      · cases h
    · obtain ⟨hadded, hdir⟩ := ensureDirectory_added h
      exact ⟨hadded, fun _ => hdir⟩

/-- A directory that is there is not made again. -/
theorem makeDirectories_of_lookup : ∀ {n : Nat},
    (n ≠ 0 → s.lookup cwd { p with parts := p.parts.take n } = .ok .directory) →
      s.makeDirectories cwd p n = .ok s
  | 0, _ => rfl
  | n + 1, hdir => by
    have hdir := hdir (Nat.succ_ne_zero n)
    obtain ⟨place, hplace, hat⟩ := lookup_eq_ok_iff.mp hdir
    -- the place is occupied, so that nothing above it is asked for
    have hmade : s.makeDirectory cwd { p with parts := p.parts.take (n + 1) } =
        .error .occupied := by
      simp only [makeDirectory, hplace, hat]
    have hthere : s.isDirectory cwd { p with parts := p.parts.take (n + 1) } = true := by
      simp only [isDirectory, found?, hdir, Except.toOption, decide_true]
    simp only [makeDirectories, ensureDirectory, hmade, hthere, ↓reduceIte]

/-! ## Writing files -/

/-- A file is put at the end of a path, and directories on the way to it. -/
structure Laid (s : Store) (cwd target : Path) (bytes : Text.Bytes) (s' : Store) : Prop where
  no_zero_above : target.parent.hasZero = false
  no_zero : target.hasZero = false
  written : ∃ s₁, s.makeDirectories cwd target.parent target.parent.parts.length = .ok s₁ ∧
    s₁.write cwd target bytes = .ok s'

theorem write_eq_ok_iff : s.write cwd p bytes = .ok s' ↔
    ∃ place, s.locate cwd p = .ok place ∧ s.at? place ≠ some .directory ∧
      s.insert place (.file bytes) = s' := by
  unfold write
  cases s.locate cwd p with
  | error r => simp
  | ok place =>
    simp only [Except.ok.injEq, exists_eq_left']
    split
    · next hdir => simp [hdir]
    · next hdir => simp [hdir]

theorem grown_insert_file (h : s.at? place ≠ some .directory) (bytes : Text.Bytes) :
    Grown s (s.insert place (.file bytes)) := by
  have hne := place_ne_nil h
  constructor
  · intro q hq
    have hqne : q ≠ place := by
      rintro rfl
      exact h ((getElem?_of_at? hne).symm.trans hq)
    rw [getElem?_insert, if_neg hqne, hq]
  · intro q bytes' hq
    rw [getElem?_insert]
    split
    · exact ⟨bytes, rfl⟩
    · exact ⟨bytes', hq⟩

theorem Room.exists_laid {target : Path} (h : Room s target) (cwd : Path) (bytes : Text.Bytes) :
    ∃ s', Laid s cwd target bytes s' := by
  obtain ⟨made, hmade, s', hwrite⟩ := h.exists_write cwd bytes
  exact ⟨s', Path.parent_no_zero h.no_zero, h.no_zero, made, hmade, hwrite⟩

namespace Laid

variable {target : Path}

theorem grown (h : Laid s cwd target bytes s') : Grown s s' := by
  obtain ⟨s₁, hmade, hwrite⟩ := h.written
  obtain ⟨place, -, hdir, rfl⟩ := write_eq_ok_iff.mp hwrite
  exact (makeDirectories_added hmade).1.grown.trans (grown_insert_file hdir bytes)

/-- Besides the file only directories are new. -/
theorem effect (h : Laid s cwd target bytes s') :
    ∃ place, s'.locate cwd target = .ok place ∧ s'.at? place = some (.file bytes) ∧
      ∀ q, q ≠ place → s'.at? q = s.at? q ∨ s.at? q = none ∧ s'.at? q = some .directory := by
  obtain ⟨s₁, hmade, hwrite⟩ := h.written
  obtain ⟨place, hplace, hdir, rfl⟩ := write_eq_ok_iff.mp hwrite
  have hne := place_ne_nil hdir
  refine ⟨place, (grown_insert_file hdir bytes).locate hplace, ?_, fun q hq => ?_⟩
  · rw [at?_insert hne, if_pos rfl]
  · rw [at?_insert hne, if_neg hq]
    exact (makeDirectories_added hmade).1.at? q

theorem read (h : Laid s cwd target bytes s') : s'.read cwd target = .ok bytes := by
  obtain ⟨place, hplace, hat, -⟩ := h.effect
  exact read_of_place hplace hat

theorem placed (h : Laid s cwd target bytes s') (htarget : target.Straight) :
    Placed s target.parts bytes s' := by
  obtain ⟨made, hmade, hwrite⟩ := h.written
  have hraised := makeDirectories_eq_ok htarget.parent (Nat.le_refl _) hmade
  rw [List.take_length] at hraised
  exact write_eq_ok htarget hraised hwrite

/-- Where a file has been put there was room for it. -/
theorem room (h : Laid s cwd target bytes s') (htarget : target.Straight) : Room s target := by
  have hplaced := h.placed htarget
  obtain ⟨made, -, hwrite⟩ := h.written
  obtain ⟨place, hlocate, -, -⟩ := write_eq_ok_iff.mp hwrite
  exact ⟨htarget, (locate_eq_ok htarget hlocate).2.1, h.no_zero, hplaced.free,
    hplaced.no_directory⟩

/-- Once a file has been put at the end of a path, this can be done again at any time, and
then the file is all that changes. -/
theorem again (h : Laid s cwd target bytes s') (hgrown : Grown s' s₁)
    (hplace : s'.locate cwd target = .ok place) :
    Laid s₁ cwd target bytes (s₁.insert place (.file bytes)) ∧
      s₁.at? place ≠ some .directory := by
  obtain ⟨s₂, hmade, hwrite⟩ := h.written
  obtain ⟨place', hlocate, hdir, rfl⟩ := write_eq_ok_iff.mp hwrite
  have hwritten := grown_insert_file hdir bytes
  cases (hwritten.locate hlocate).symm.trans hplace
  have hfile : s₁.at? place ≠ some .directory := by
    have hhere : at? (s₂.insert place (.file bytes)) place = some (.file bytes) := by
      rw [at?_insert (place_ne_nil hdir), if_pos rfl]
    obtain ⟨bytes', hbytes'⟩ := hgrown.at?_file hhere
    rw [hbytes']
    exact nofun
  -- the directory of the target has been made and is one still
  have hsame : s₁.makeDirectories cwd target.parent target.parent.parts.length = .ok s₁ := by
    refine makeDirectories_of_lookup fun hn => ?_
    exact (hwritten.trans hgrown).lookup_directory ((makeDirectories_added hmade).2 hn)
  refine ⟨⟨h.no_zero_above, h.no_zero, s₁, hsame, write_eq_ok_iff.mpr ?_⟩, hfile⟩
  exact ⟨place, hgrown.locate hplace, hfile, rfl⟩

end Laid

/-! ## What patterns pick -/

theorem mem_toList_iff {entry : Entry} : (place, entry) ∈ s.toList ↔ s[place]? = some entry :=
  Std.TreeMap.mem_toList_iff_getElem?_eq_some

theorem routes_of_ne_up {part : Pattern.Part} (h : part ≠ .up) (dir : Place)
    (taken parts : List Pattern.Part) :
    s.routes dir taken (part :: parts) = s.routes dir (taken ++ [part]) parts := by
  cases part with
  | up => exact absurd rfl h
  | name marks => rfl
  | deep => rfl

theorem mem_routes_up {dir : Place} {taken parts : List Pattern.Part} {names : List Text} :
    names ∈ s.routes dir taken (.up :: parts) ↔
      ∃ below ∈ s.directoriesBelow dir taken,
        ∃ rest ∈ s.routes (dir ++ below).dropLast [] parts, below ++ ['.', '.'] :: rest = names := by
  rw [routes, Std.TreeSet.mem_toList, ← Std.TreeSet.contains_iff_mem, Std.TreeSet.contains_ofList]
  simp

namespace Grown

theorem filesBelow (h : Grown s s') (dir : Place) (pattern : List Pattern.Part) :
    s.filesBelow dir pattern ⊆ s'.filesBelow dir pattern := by
  intro below hbelow
  unfold Store.filesBelow at hbelow ⊢
  obtain ⟨⟨place, entry⟩, hmem, hpick⟩ := List.mem_filterMap.mp hbelow
  cases entry with
  | directory => cases hpick
  | file bytes =>
    obtain ⟨bytes', hfile⟩ := h.files place bytes (mem_toList_iff.mp hmem)
    exact List.mem_filterMap.mpr ⟨(place, .file bytes'), mem_toList_iff.mpr hfile, hpick⟩

theorem directoriesBelow (h : Grown s s') (dir : Place) (pattern : List Pattern.Part) :
    s.directoriesBelow dir pattern ⊆ s'.directoriesBelow dir pattern := by
  unfold Store.directoriesBelow
  refine List.filter_subset _ (List.cons_subset_cons _ fun below hbelow => ?_)
  obtain ⟨⟨place, entry⟩, hmem, hpick⟩ := List.mem_filterMap.mp hbelow
  cases entry with
  | file bytes => cases hpick
  | directory =>
    have hdir := h.directories place (mem_toList_iff.mp hmem)
    exact List.mem_filterMap.mpr ⟨(place, .directory), mem_toList_iff.mpr hdir, hpick⟩

/-- Whatever a pattern leads to it still leads to. -/
theorem routes (h : Grown s s') (parts : List Pattern.Part) :
    ∀ dir taken, s.routes dir taken parts ⊆ s'.routes dir taken parts := by
  induction parts with
  | nil => exact h.filesBelow
  | cons part parts ih =>
    intro dir taken
    by_cases hpart : part = .up
    · intro names hnames
      subst hpart
      rw [mem_routes_up] at hnames ⊢
      obtain ⟨below, hbelow, rest, hrest, rfl⟩ := hnames
      exact ⟨below, h.directoriesBelow dir taken hbelow, rest, ih _ _ hrest, rfl⟩
    · rw [routes_of_ne_up hpart, routes_of_ne_up hpart]
      exact ih dir _

theorem select (h : Grown s s') (cwd src : Path) (pattern : List Pattern.Part) :
    s.select cwd src pattern ⊆ s'.select cwd src pattern := by
  unfold Store.select
  cases hlocate : s.locate cwd src with
  | error r => exact List.nil_subset _
  | ok dir =>
    rw [h.locate hlocate]
    simp only
    split
    · next hdir =>
      rw [if_pos (h.at?_directory hdir)]
      exact List.map_subset _ (h.routes pattern dir [])
    · exact List.nil_subset _

end Grown

theorem routes_ordered (s : Store) (parts : List Pattern.Part) :
    ∀ dir taken, (s.routes dir taken parts).Pairwise fun a b => compare a b = .lt := by
  induction parts with
  | nil =>
    intro dir taken
    have hordered := @filesBelow_ordered s dir taken
    rw [List.pairwise_map] at hordered
    refine hordered.imp fun {a b} hlt => ?_
    rwa [compare_append] at hlt
  | cons part parts ih =>
    intro dir taken
    by_cases hpart : part = .up
    · subst hpart
      rw [Store.routes]
      exact Std.TreeSet.ordered_toList
    · rw [routes_of_ne_up hpart]
      exact ih dir _

/-- A pattern picks each file once, in order. -/
theorem select_ordered (s : Store) (cwd src : Path) (pattern : List Pattern.Part) :
    (s.select cwd src pattern).Pairwise fun p q => compare p q = .lt := by
  unfold select
  split
  · exact List.Pairwise.nil
  · next dir _ =>
    split
    · refine List.pairwise_map.mpr ((s.routes_ordered pattern dir []).imp fun {a b} hlt => ?_)
      have hroot := @Path.compare_of_root ⟨src.root, src.parts ++ a⟩ ⟨src.root, src.parts ++ b⟩ rfl
      exact hroot.trans ((compare_append src.parts a b).trans hlt)
    · exact List.Pairwise.nil

end Store

/-! ## Modules that are written -/

namespace Session

variable {w w' : World} {t target : Path} {source : Text}

theorem emit_eq_ok {written : Text} (h : (emit t target source).run w = .ok written w') :
    w.host.refuses (.compiled t target) = none ∧ w.notices <+: w'.notices ∧
      w.files.Laid w.cwd target source.encode w'.files := by
  rw [run_emit] at h
  split at h
  · cases h
  · next habove =>
    split at h
    · cases h
    · next made hmade =>
      split at h
      · cases h
      · next hzero =>
        split at h
        · cases h
        · next files hwrite =>
          split at h
          · next hshown =>
            cases h
            exact ⟨hshown, List.prefix_append _ _, Bool.eq_false_iff.mpr habove,
              Bool.eq_false_iff.mpr hzero, made, hmade, hwrite⟩
          · cases h

theorem exists_emit {s' : Store} (hshown : w.host.refuses (.compiled t target) = none)
    (h : w.files.Laid w.cwd target source.encode s') :
    ∃ w', (emit t target source).run w = .ok source w' ∧ w'.files = s' := by
  obtain ⟨made, hmade, hwrite⟩ := h.written
  rw [run_emit, h.no_zero_above, h.no_zero]
  simp only [hmade, hwrite, hshown, Bool.false_eq_true, ↓reduceIte]
  exact ⟨_, rfl, rfl⟩

end Session

end JsxTemplate
