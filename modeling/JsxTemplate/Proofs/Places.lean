import JsxTemplate.Files.Store
import Mathlib.Data.List.Induction

/-!
# What stands where

Each operation on files is described by what stands at every place before and
after it. Files form a tree: whatever stands somewhere stands in a directory.
Paths are taken to be complete and resolved here, so that a path names the place
with its own names.
-/

namespace JsxTemplate

/-- A complete path without double dots. -/
def Path.Straight (p : Path) : Prop := p.root ≠ .relative ∧ ['.', '.'] ∉ p.parts

instance (p : Path) : Decidable p.Straight := inferInstanceAs (Decidable (_ ∧ _))

/-- The system takes a path and names of this length. -/
def Path.Short (p : Path) : Prop :=
  p.toText.encode.length ≤ Store.maxPathBytes ∧
    ∀ name ∈ p.parts, name.encode.length ≤ Store.maxNameBytes

instance (p : Path) : Decidable p.Short := inferInstanceAs (Decidable (_ ∧ _))

namespace Path

theorem Straight.take {p : Path} (hp : p.Straight) (n : Nat) :
    ({ p with parts := p.parts.take n } : Path).Straight :=
  ⟨hp.1, fun hmem => hp.2 (List.mem_of_mem_take hmem)⟩

theorem Straight.parent {p : Path} (hp : p.Straight) : p.parent.Straight := by
  rw [Path.parent, List.dropLast_eq_take]
  exact hp.take _

theorem intercalate_take_prefix (sep : Text) :
    ∀ (names : List Text) (n : Nat), sep.intercalate (names.take n) <+: sep.intercalate names
  | [], n => by simp
  | name :: names, 0 => by
    rw [List.take_zero]
    exact List.nil_prefix
  | [name], n + 1 => by simp
  | name :: next :: names, 1 => by
    rw [List.take_succ_cons, List.take_zero, List.intercalate_singleton,
      List.intercalate_cons_cons, List.append_assoc]
    exact List.prefix_append _ _
  | name :: next :: names, n + 2 => by
    have ih := intercalate_take_prefix sep (next :: names) (n + 1)
    rw [List.take_succ_cons] at ih
    rw [List.take_succ_cons, List.take_succ_cons, List.intercalate_cons_cons,
      List.intercalate_cons_cons]
    exact (List.prefix_append_right_inj _).mpr ih

theorem toText_of_root {p : Path} (hroot : p.root ≠ .relative) : p.toText = p.spelled := by
  unfold toText spelled
  cases hr : p.root with
  | relative => exact absurd hr hroot
  | slash => rfl
  | doubleSlash => rfl

/-- A path above a short one is short. -/
theorem Short.take {p : Path} (hroot : p.root ≠ .relative) (hp : p.Short) (n : Nat) :
    ({ p with parts := p.parts.take n } : Path).Short := by
  refine ⟨?_, fun name hname => hp.2 name (List.mem_of_mem_take hname)⟩
  have hlen := hp.1
  rw [toText_of_root hroot, spelled] at hlen
  rw [@toText_of_root { p with parts := p.parts.take n } hroot, spelled]
  obtain ⟨rest, hrest⟩ := intercalate_take_prefix ['/'] p.parts n
  rw [← hrest, Text.encode, List.flatMap_append, List.flatMap_append] at hlen
  rw [Text.encode, List.flatMap_append]
  simp only [List.length_append] at hlen ⊢
  omega

end Path

namespace Store

variable {s s' : Store} {cwd p : Path} {place : Place}

@[simp] theorem at?_nil (s : Store) : s.at? [] = some .directory := rfl

theorem place_ne_nil (h : s.at? place ≠ some .directory) : place ≠ [] := by
  rintro rfl
  exact h (at?_nil s)

theorem place_ne_nil_of_file {bytes : Text.Bytes} (h : s.at? place = some (.file bytes)) :
    place ≠ [] := by
  rintro rfl
  cases h

theorem at?_insert (h : place ≠ []) (entry : Entry) (q : Place) :
    at? (s.insert place entry) q = if q = place then some entry else s.at? q := by
  unfold at?
  rw [Std.TreeMap.getElem?_insert]
  by_cases hq : q = []
  · have hne : q ≠ place := fun he => h (he ▸ hq)
    rw [if_pos hq, if_neg hne, if_pos hq]
  · rw [if_neg hq, if_neg hq]
    simp only [Std.compare_eq_iff_eq, @eq_comm _ place q]

theorem at?_erase (h : place ≠ []) (q : Place) :
    at? (s.erase place) q = if q = place then none else s.at? q := by
  unfold at?
  rw [Std.TreeMap.getElem?_erase]
  by_cases hq : q = []
  · have hne : q ≠ place := fun he => h (he ▸ hq)
    rw [if_pos hq, if_neg hne, if_pos hq]
  · rw [if_neg hq, if_neg hq]
    simp only [Std.compare_eq_iff_eq, @eq_comm _ place q]

/-! ## The tree of files -/

/-- Whatever stands somewhere stands in a directory. -/
def Tree (s : Store) : Prop := ∀ q, s.at? q ≠ none → s.at? q.dropLast = some .directory

/-- All places above an entry are directories. -/
theorem Tree.above (h : s.Tree) {dir : Place} :
    ∀ {rest : Place}, rest ≠ [] → s.at? (dir ++ rest) ≠ none → s.at? dir = some .directory := by
  intro rest
  induction rest using List.reverseRecOn with
  | nil => exact fun hrest => absurd rfl hrest
  | append_singleton rest name ih =>
    intro _ hat
    have hdir := h _ hat
    rw [← List.append_assoc, List.dropLast_concat] at hdir
    by_cases hrest : rest = []
    · rwa [hrest, List.append_nil] at hdir
    · exact ih hrest (by rw [hdir]; exact Option.some_ne_none _)

/-- Nothing stands below what is no directory. -/
theorem Tree.none_below (h : s.Tree) {dir rest : Place} (hdir : s.at? dir ≠ some .directory)
    (hrest : rest ≠ []) : s.at? (dir ++ rest) = none :=
  Classical.byContradiction fun hat => hdir (h.above hrest hat)

/-- What stands at a place other than the root is one of the entries. -/
theorem mem_toList_of_at? {q : Place} {entry : Entry} (hq : q ≠ [])
    (h : s.at? q = some entry) : (q, entry) ∈ s.toList := by
  unfold at? at h
  rw [if_neg hq] at h
  exact Std.TreeMap.mem_toList_iff_getElem?_eq_some.mpr h

/-- What holds of all places where something stands. -/
theorem forall_places {P : Place → Prop} :
    (∀ q, s.at? q ≠ none → P q) ↔ P [] ∧ ∀ x ∈ s.toList, P x.1 := by
  constructor
  · refine fun h => ⟨h [] nofun, fun x hx => ?_⟩
    refine h x.1 ?_
    unfold at?
    split
    · exact nofun
    · rw [Std.TreeMap.mem_toList_iff_getElem?_eq_some.mp hx]
      exact nofun
  · rintro ⟨hnil, h⟩ q hat
    by_cases hq : q = []
    · rw [hq]
      exact hnil
    · obtain ⟨entry, hentry⟩ := Option.ne_none_iff_exists'.mp hat
      exact h _ (mem_toList_of_at? hq hentry)

instance (s : Store) : Decidable s.Tree := decidable_of_iff _ forall_places.symm

/-! ## Finding a place -/

/-- What comes of following names. They lead to their place through directories,
or something stops them: nothing or a file where a directory has to be, or a name
that is too long. -/
theorem follow_cases {start : Place} : ∀ {names : List Text}, ['.', '.'] ∉ names →
    (s.follow start names = .ok (start ++ names) ∧
      (∀ name ∈ names, name.encode.length ≤ maxNameBytes) ∧
      ∀ above below, names = above ++ below → below ≠ [] →
        s.at? (start ++ above) = some .directory) ∨
    (s.follow start names = .error .nameTooLong ∧
      ∃ name ∈ names, maxNameBytes < name.encode.length) ∨
    ∃ above below, names = above ++ below ∧ below ≠ [] ∧
      ((s.follow start names = .error .missing ∧ s.at? (start ++ above) = none) ∨
        (s.follow start names = .error .notDirectory ∧
          ∃ bytes, s.at? (start ++ above) = some (.file bytes))) := by
  intro names
  induction names generalizing start with
  | nil =>
    intro _
    refine .inl ⟨congrArg Except.ok (List.append_nil _).symm, by simp, ?_⟩
    intro above below hsplit hbelow
    exact absurd (List.append_eq_nil_iff.mp hsplit.symm).2 hbelow
  | cons name names ih =>
    intro hup
    rw [List.mem_cons, not_or] at hup
    have hstop : ∀ entry, s.at? start = entry → s.at? (start ++ []) = entry := by
      rw [List.append_nil]
      exact fun _ h => h
    cases hstart : s.at? start with
    | none =>
      have hrun : s.follow start (name :: names) = .error .missing := by rw [follow, hstart]
      exact .inr (.inr ⟨[], _, rfl, List.cons_ne_nil _ _, .inl ⟨hrun, hstop _ hstart⟩⟩)
    | some entry =>
      cases entry with
      | file bytes =>
        have hrun : s.follow start (name :: names) = .error .notDirectory := by
          rw [follow, hstart]
        exact .inr (.inr ⟨[], _, rfl, List.cons_ne_nil _ _, .inr ⟨hrun, bytes, hstop _ hstart⟩⟩)
      | directory =>
        by_cases hlen : maxNameBytes < name.encode.length
        · have hrun : s.follow start (name :: names) = .error .nameTooLong := by
            simp only [follow, hstart, if_neg (Ne.symm hup.1), if_pos hlen]
          exact .inr (.inl ⟨hrun, name, List.mem_cons_self, hlen⟩)
        · have hrun : s.follow start (name :: names) = s.follow (start ++ [name]) names := by
            simp only [follow, hstart, if_neg (Ne.symm hup.1), if_neg hlen]
          have hcons : ∀ rest, start ++ name :: rest = start ++ [name] ++ rest := fun rest =>
            List.append_cons ..
          rw [hrun, hcons names]
          rcases ih hup.2 with ⟨hok, hlens, hdirs⟩ | ⟨herr, n, hn, hlong⟩ | hblocked
          · refine .inl ⟨hok, fun n hn => ?_, fun above below hsplit hbelow => ?_⟩
            · rcases List.mem_cons.mp hn with rfl | hn
              · exact Nat.not_lt.mp hlen
              · exact hlens n hn
            · cases above with
              | nil => rw [List.append_nil, hstart]
              | cons first above =>
                obtain ⟨rfl, hnames⟩ := List.cons_eq_cons.mp hsplit
                rw [hcons above]
                exact hdirs above below hnames hbelow
          · exact .inr (.inl ⟨herr, n, List.mem_cons_of_mem _ hn, hlong⟩)
          · obtain ⟨above, below, rfl, hbelow, hwhy⟩ := hblocked
            refine .inr (.inr ⟨name :: above, below, rfl, hbelow, ?_⟩)
            rw [hcons above]
            exact hwhy

theorem locate_straight (hp : p.Straight) :
    s.locate cwd p =
      if maxPathBytes < p.toText.encode.length then .error .nameTooLong
      else s.follow [] p.parts := by
  unfold locate
  split
  · rfl
  · have hroot := hp.1
    cases hr : p.root with
    | relative => exact absurd hr hroot
    | slash => rfl
    | doubleSlash => rfl

theorem prefix_dropLast_of_append {above below : Place} (h : below ≠ []) :
    above <+: (above ++ below).dropLast := by
  rw [List.dropLast_append_of_ne_nil h]
  exact List.prefix_append _ _

/-- What comes of looking for the place of a path. -/
theorem locate_cases (s : Store) (cwd : Path) (hp : p.Straight) :
    (s.locate cwd p = .ok p.parts ∧ p.Short ∧
      ∀ q, q <+: p.parts.dropLast → s.at? q = some .directory) ∨
    (s.locate cwd p = .error .nameTooLong ∧ ¬ p.Short) ∨
    ∃ q, q <+: p.parts.dropLast ∧
      ((s.locate cwd p = .error .missing ∧ s.at? q = none) ∨
        (s.locate cwd p = .error .notDirectory ∧ ∃ bytes, s.at? q = some (.file bytes))) := by
  rw [locate_straight hp]
  split
  · next hlen => exact .inr (.inl ⟨rfl, fun hshort => Nat.not_lt.mpr hshort.1 hlen⟩)
  · next hlen =>
    rcases @follow_cases s [] _ hp.2 with ⟨hok, hlens, hdirs⟩ | ⟨herr, n, hn, hlong⟩ | hblocked
    · refine .inl ⟨hok, ⟨Nat.not_lt.mp hlen, hlens⟩, fun q hq => ?_⟩
      by_cases hnil : p.parts = []
      · rw [hnil, List.dropLast_nil, List.prefix_nil] at hq
        rw [hq, at?_nil]
      · obtain ⟨rest, hrest⟩ := hq
        refine hdirs q (rest ++ [p.parts.getLast hnil]) ?_ (by simp)
        rw [← List.append_assoc, hrest, List.dropLast_concat_getLast]
    · exact .inr (.inl ⟨herr, fun hshort => Nat.not_lt.mpr (hshort.2 n hn) hlong⟩)
    · obtain ⟨above, below, hsplit, hbelow, hwhy⟩ := hblocked
      exact .inr (.inr ⟨above, hsplit ▸ prefix_dropLast_of_append hbelow, hwhy⟩)

theorem locate_eq_ok (hp : p.Straight) (h : s.locate cwd p = .ok place) :
    place = p.parts ∧ p.Short ∧ ∀ q, q <+: p.parts.dropLast → s.at? q = some .directory := by
  rcases locate_cases s cwd hp with ⟨hok, hrest⟩ | ⟨herr, -⟩ | ⟨q, -, ⟨herr, -⟩ | ⟨herr, -⟩⟩
  · rw [hok] at h
    cases h
    exact ⟨rfl, hrest⟩
  all_goals
    rw [herr] at h
    cases h

theorem lookup_eq_ok {entry : Entry} (hp : p.Straight) (h : s.lookup cwd p = .ok entry) :
    s.at? p.parts = some entry ∧ p.Short ∧
      ∀ q, q <+: p.parts.dropLast → s.at? q = some .directory := by
  unfold lookup at h
  split at h
  · cases h
  · next place hplace =>
    obtain ⟨rfl, hrest⟩ := locate_eq_ok hp hplace
    split at h
    · cases h
    · next hentry =>
      cases h
      exact ⟨hentry, hrest⟩

theorem lookup_of_isDirectory (h : s.isDirectory cwd p = true) :
    s.lookup cwd p = .ok .directory := by
  unfold isDirectory found? at h
  cases hl : s.lookup cwd p with
  | error r => simp [hl, Except.toOption] at h
  | ok entry => simpa [hl, Except.toOption] using h

theorem isDirectory_of_lookup (h : s.lookup cwd p = .ok .directory) :
    s.isDirectory cwd p = true := by
  simp only [isDirectory, found?, h, Except.toOption, decide_true]

/-- The way to an entry leads through directories. -/
theorem Tree.way (htree : s.Tree) {place : Place} (hat : s.at? place ≠ none) :
    ∀ q, q <+: place.dropLast → s.at? q = some .directory := by
  rintro q ⟨rest, hrest⟩
  by_cases hnil : place = []
  · rw [hnil, List.dropLast_nil, List.append_eq_nil_iff] at hrest
    rw [hrest.1, at?_nil]
  · refine @Tree.above s htree q (rest ++ [place.getLast hnil]) (by simp) ?_
    rwa [← List.append_assoc, hrest, List.dropLast_concat_getLast]

/-- No file is on the way to a directory. -/
theorem Tree.no_file_above (htree : s.Tree) {dir q : Place} (hdir : s.at? dir = some .directory)
    (hq : q <+: dir) (bytes : Text.Bytes) : s.at? q ≠ some (.file bytes) := by
  intro hfile
  obtain ⟨rest, rfl⟩ := hq
  by_cases hrest : rest = []
  · rw [hrest, List.append_nil, hfile] at hdir
    cases hdir
  · rw [htree.above hrest (by rw [hdir]; exact nofun)] at hfile
    cases hfile

/-- Where nothing is found nothing stands, unless the system refuses to look. -/
theorem Tree.lookup_eq_error (htree : s.Tree) (hp : p.Straight) {r : Refusal}
    (h : s.lookup cwd p = .error r) (hr : r ≠ .nameTooLong) : s.at? p.parts = none := by
  by_contra hat
  obtain ⟨entry, hentry⟩ := Option.ne_none_iff_exists'.mp hat
  rcases locate_cases s cwd hp with ⟨hok, -⟩ | ⟨herr, -⟩ | ⟨q, hq, ⟨-, hwhy⟩ | ⟨-, bytes, hwhy⟩⟩
  · simp only [lookup, hok, hentry] at h
    cases h
  · simp only [lookup, herr] at h
    cases h
    exact hr rfl
  all_goals
    rw [htree.way hat q hq] at hwhy
    cases hwhy

theorem read_eq_ok_iff {bytes : Text.Bytes} :
    s.read cwd p = .ok bytes ↔ s.lookup cwd p = .ok (.file bytes) := by
  unfold read
  rcases s.lookup cwd p with r | ⟨_ | bytes'⟩
  · simp
  · simp
  · simp

theorem read_eq_ok {bytes : Text.Bytes} (hp : p.Straight) (h : s.read cwd p = .ok bytes) :
    s.at? p.parts = some (.file bytes) :=
  (lookup_eq_ok hp (read_eq_ok_iff.mp h)).1

/-- A file that is there can be read if its path is short. -/
theorem Tree.read_cases (htree : s.Tree) (cwd : Path) (hp : p.Straight) {bytes : Text.Bytes}
    (hfile : s.at? p.parts = some (.file bytes)) :
    (p.Short ∧ s.read cwd p = .ok bytes) ∨ (¬ p.Short ∧ s.read cwd p = .error .nameTooLong) := by
  have hat : s.at? p.parts ≠ none := by
    rw [hfile]
    exact nofun
  rcases locate_cases s cwd hp with
    ⟨hok, hshort, -⟩ | ⟨herr, hlong⟩ | ⟨q, hq, ⟨-, hwhy⟩ | ⟨-, bytes, hwhy⟩⟩
  · exact .inl ⟨hshort, by simp only [read, lookup, hok, hfile]⟩
  · exact .inr ⟨hlong, by simp only [read, lookup, herr]⟩
  all_goals
    rw [htree.way hat q hq] at hwhy
    cases hwhy

/-- Reading a file depends on the file only. -/
theorem Tree.read_eq (htree : s.Tree) (cwd cwd' : Path) (htree' : s'.Tree) (hp : p.Straight)
    {bytes : Text.Bytes} (hfile : s.at? p.parts = some (.file bytes))
    (hfile' : s'.at? p.parts = some (.file bytes)) : s'.read cwd' p = s.read cwd p := by
  rcases htree.read_cases cwd hp hfile with ⟨hshort, hread⟩ | ⟨hlong, hread⟩ <;>
    rcases htree'.read_cases cwd' hp hfile' with ⟨hshort', hread'⟩ | ⟨hlong', hread'⟩
  · rw [hread, hread']
  · exact absurd hshort hlong'
  · exact absurd hshort' hlong
  · rw [hread, hread']

/-! ## Writing -/

/-- Directories have been put at all places on the way to `dir`, and at `dir`. -/
structure Raised (s : Store) (dir : Place) (s' : Store) : Prop where
  free : ∀ q, q <+: dir → ∀ bytes, s.at? q ≠ some (.file bytes)
  on_way : ∀ q, q <+: dir → s'.at? q = some .directory
  elsewhere : ∀ q, ¬ q <+: dir → s'.at? q = s.at? q

/-- A directory that is there already has been raised by doing nothing. -/
theorem Raised.refl {dir : Place} (h : ∀ q, q <+: dir → s.at? q = some .directory) :
    Raised s dir s where
  free q hq bytes hfile := by
    rw [h q hq] at hfile
    cases hfile
  on_way := h
  elsewhere _ _ := rfl

/-- Putting a directory into one that has been raised. -/
theorem Raised.insert {dir : Place} {name : Text} (h : Raised s dir s')
    (hnone : s'.at? (dir ++ [name]) = none) :
    Raised s (dir ++ [name]) (s'.insert (dir ++ [name]) .directory) := by
  have hne : dir ++ [name] ≠ [] := by simp
  have hnot : ¬ dir ++ [name] <+: dir := fun hp => by
    have hlen := hp.length_le
    rw [List.length_append, List.length_singleton] at hlen
    omega
  constructor
  · intro q hq bytes hfile
    rcases List.prefix_concat_iff.mp hq with rfl | hq
    · rw [← h.elsewhere _ hnot, hnone] at hfile
      cases hfile
    · exact h.free q hq bytes hfile
  · intro q hq
    rw [at?_insert hne]
    split
    · rfl
    · next hqne => exact h.on_way q ((List.prefix_concat_iff.mp hq).resolve_left hqne)
  · intro q hq
    have hqne : q ≠ dir ++ [name] := fun he => hq (he ▸ List.prefix_rfl)
    rw [at?_insert hne, if_neg hqne]
    exact h.elsewhere q fun hq' => hq (hq'.trans (List.prefix_append _ _))

theorem Raised.trans {dir dir' : Place} {s₁ s₂ : Store} (hdir : dir <+: dir')
    (h : Raised s dir s₁) (h' : Raised s₁ dir' s₂) : Raised s dir' s₂ := by
  refine ⟨fun q hq bytes hfile => ?_, h'.on_way, fun q hq => ?_⟩
  · by_cases hq' : q <+: dir
    · exact h.free q hq' bytes hfile
    · rw [← h.elsewhere q hq'] at hfile
      exact h'.free q hq bytes hfile
  · rw [h'.elsewhere q hq]
    exact h.elsewhere q fun hq' => hq (hq'.trans hdir)

theorem makeDirectory_eq_ok (hp : p.Straight) (h : s.makeDirectory cwd p = .ok s') :
    s.at? p.parts = none ∧ (∀ q, q <+: p.parts.dropLast → s.at? q = some .directory) ∧
      s' = s.insert p.parts .directory := by
  unfold makeDirectory at h
  split at h
  · cases h
  · next place hplace =>
    obtain ⟨rfl, -, hdirs⟩ := locate_eq_ok hp hplace
    split at h
    · next hnone =>
      cases h
      exact ⟨hnone, hdirs, rfl⟩
    · cases h

theorem ensureDirectory_eq_ok (hp : p.Straight) {dir : Place} {name : Text}
    (hparts : p.parts = dir ++ [name]) (h : s.ensureDirectory cwd p = .ok s') :
    Raised s p.parts s' := by
  have hdir : p.parts.dropLast = dir := by rw [hparts, List.dropLast_concat]
  unfold ensureDirectory at h
  split at h
  · next s₁ hmade =>
    cases h
    obtain ⟨hnone, hdirs, rfl⟩ := makeDirectory_eq_ok hp hmade
    rw [hdir] at hdirs
    rw [hparts] at hnone ⊢
    exact (Raised.refl hdirs).insert hnone
  · split at h
    · next hdirectory =>
      cases h
      obtain ⟨hhere, -, hdirs⟩ := lookup_eq_ok hp (lookup_of_isDirectory hdirectory)
      rw [hdir] at hdirs
      refine Raised.refl fun q hq => ?_
      rw [hparts] at hq hhere
      rcases List.prefix_concat_iff.mp hq with rfl | hq
      · exact hhere
      · exact hdirs q hq
    · cases h

theorem makeDirectories_eq_ok (hp : p.Straight) :
    ∀ {n : Nat} {s' : Store}, n ≤ p.parts.length → s.makeDirectories cwd p n = .ok s' →
      Raised s (p.parts.take n) s' := by
  intro n
  induction n with
  | zero =>
    intro s' _ h
    cases h
    refine Raised.refl fun q hq => ?_
    rw [List.take_zero, List.prefix_nil] at hq
    rw [hq, at?_nil]
  | succ n ih =>
    intro s' hn h
    have hparts : p.parts.take (n + 1) = p.parts.take n ++ [p.parts[n]] :=
      List.take_succ_eq_append_getElem hn
    rw [makeDirectories] at h
    split at h
    · split at h
      · next s₁ habove =>
        exact (ih (Nat.le_of_succ_le hn) habove).trans (hparts ▸ List.prefix_append _ _)
          (ensureDirectory_eq_ok (hp.take _) hparts h)
      · cases h
    · exact ensureDirectory_eq_ok (hp.take _) hparts h

/-- A file with these bytes has been put at a place, and directories on the way to it. -/
structure Placed (s : Store) (place : Place) (bytes : Text.Bytes) (s' : Store) : Prop where
  nonempty : place ≠ []
  no_directory : s.at? place ≠ some .directory
  free : ∀ q, q <+: place.dropLast → ∀ bytes, s.at? q ≠ some (.file bytes)
  here : s'.at? place = some (.file bytes)
  on_way : ∀ q, q <+: place.dropLast → s'.at? q = some .directory
  elsewhere : ∀ q, q ≠ place → ¬ q <+: place.dropLast → s'.at? q = s.at? q

/-- Nothing stands at a place any more, and nothing else has changed. -/
structure Cleared (s : Store) (place : Place) (s' : Store) : Prop where
  no_directory : s.at? place ≠ some .directory
  here : s'.at? place = none
  elsewhere : ∀ q, q ≠ place → s'.at? q = s.at? q

/-- What putting a file at a place and clearing it have in common: no other file
and no directory is touched, and the tree stays one. -/
structure Kept (s : Store) (place : Place) (s' : Store) : Prop where
  tree : s'.Tree
  files : ∀ q, q ≠ place → ∀ bytes, s'.at? q = some (.file bytes) ↔ s.at? q = some (.file bytes)
  directories : ∀ q, s.at? q = some .directory → s'.at? q = some .directory
  elsewhere : ∀ q, ¬ q <+: place → s'.at? q = s.at? q

theorem Kept.refl (htree : s.Tree) (place : Place) : Kept s place s :=
  ⟨htree, fun _ _ _ => Iff.rfl, fun _ h => h, fun _ _ => rfl⟩

theorem not_prefix_dropLast {place : Place} (h : place ≠ []) : ¬ place <+: place.dropLast := by
  intro hp
  have hlen := hp.length_le
  have hpos := List.length_pos_iff.mpr h
  rw [List.length_dropLast] at hlen
  omega

theorem Placed.kept {bytes : Text.Bytes} (h : Placed s place bytes s') (htree : s.Tree) :
    Kept s place s' := by
  constructor
  · intro q hq
    by_cases hway : q.dropLast <+: place.dropLast
    · exact h.on_way _ hway
    · have hqne : q ≠ place := fun he => hway (he ▸ List.prefix_rfl)
      have hqway : ¬ q <+: place.dropLast := fun hp => hway ((List.dropLast_prefix q).trans hp)
      rw [h.elsewhere q hqne hqway] at hq
      have hdir := htree q hq
      have hdne : q.dropLast ≠ place := fun he => h.no_directory (he ▸ hdir)
      rw [h.elsewhere _ hdne hway, hdir]
  · intro q hq b
    by_cases hway : q <+: place.dropLast
    · rw [h.on_way q hway]
      exact ⟨nofun, fun hfile => absurd hfile (h.free q hway b)⟩
    · rw [h.elsewhere q hq hway]
  · intro q hq
    by_cases hway : q <+: place.dropLast
    · exact h.on_way q hway
    · have hqne : q ≠ place := fun he => h.no_directory (he ▸ hq)
      rw [h.elsewhere q hqne hway, hq]
  · intro q hq
    have hqne : q ≠ place := fun he => hq (he ▸ List.prefix_rfl)
    exact h.elsewhere q hqne fun hp => hq (hp.trans (List.dropLast_prefix place))

theorem Cleared.kept (h : Cleared s place s') (htree : s.Tree) : Kept s place s' := by
  have hdirs : ∀ q, s.at? q = some .directory → s'.at? q = some .directory := by
    intro q hq
    have hqne : q ≠ place := fun he => h.no_directory (he ▸ hq)
    rw [h.elsewhere q hqne, hq]
  refine ⟨fun q hq => ?_, fun q hq b => by rw [h.elsewhere q hq], hdirs, fun q hq => ?_⟩
  · have hqne : q ≠ place := fun he => hq (he ▸ h.here)
    rw [h.elsewhere q hqne] at hq
    exact hdirs _ (htree q hq)
  · exact h.elsewhere q fun he => hq (he ▸ List.prefix_rfl)

/-- Putting a file into a directory that has been raised. -/
theorem Raised.put {s₁ : Store} {bytes : Text.Bytes} (h : Raised s place.dropLast s₁)
    (hne : place ≠ []) (hdir : s.at? place ≠ some .directory) :
    Placed s place bytes (s₁.insert place (.file bytes)) := by
  refine ⟨hne, hdir, h.free, ?_, fun q hq => ?_, fun q hq hway => ?_⟩
  · rw [at?_insert hne, if_pos rfl]
  · have hqne : q ≠ place := fun he => not_prefix_dropLast hne (he ▸ hq)
    rw [at?_insert hne, if_neg hqne, h.on_way q hq]
  · rw [at?_insert hne, if_neg hq, h.elsewhere q hway]

/-- Raising the directory of a place and writing there puts a file at it. -/
theorem write_eq_ok (hp : p.Straight) {s₁ : Store} {bytes : Text.Bytes}
    (hraised : Raised s p.parts.dropLast s₁) (h : s₁.write cwd p bytes = .ok s') :
    Placed s p.parts bytes s' := by
  unfold write at h
  split at h
  · cases h
  · next place hplace =>
    obtain ⟨rfl, -, -⟩ := locate_eq_ok hp hplace
    split at h
    · cases h
    · next hdir =>
      cases h
      have hne := place_ne_nil hdir
      rw [hraised.elsewhere _ (not_prefix_dropLast hne)] at hdir
      exact hraised.put hne hdir

theorem unlink_eq_ok (hp : p.Straight) (h : s.unlink cwd p = .ok s') : Cleared s p.parts s' := by
  unfold unlink at h
  split at h
  · cases h
  · next place hplace =>
    obtain ⟨rfl, -, -⟩ := locate_eq_ok hp hplace
    split at h
    · cases h
    · cases h
    · next bytes hfile =>
      cases h
      have hne := place_ne_nil_of_file hfile
      refine ⟨fun hd => ?_, by rw [at?_erase hne, if_pos rfl], fun q hq => ?_⟩
      · rw [hfile] at hd
        cases hd
      · rw [at?_erase hne, if_neg hq]

/-! ## Room for files -/

/-- A file can be put at the end of a path: the system takes the path, no file is
in the way, and no directory stands there. -/
structure Room (s : Store) (p : Path) : Prop where
  straight : p.Straight
  short : p.Short
  no_zero : p.hasZero = false
  free : ∀ q, q <+: p.parts.dropLast → ∀ bytes, s.at? q ≠ some (.file bytes)
  no_directory : s.at? p.parts ≠ some .directory

theorem locate_of_free (s : Store) (cwd : Path) (hp : p.Straight) (hshort : p.Short)
    (hfree : ∀ q, q <+: p.parts.dropLast → ∀ bytes, s.at? q ≠ some (.file bytes)) :
    s.locate cwd p = .ok p.parts ∨ s.locate cwd p = .error .missing := by
  rcases locate_cases s cwd hp with ⟨hok, -⟩ | ⟨-, hlong⟩ | ⟨q, hq, ⟨herr, -⟩ | ⟨-, bytes, hfile⟩⟩
  · exact .inl hok
  · exact absurd hshort hlong
  · exact .inr herr
  · exact absurd hfile (hfree q hq bytes)

theorem locate_of_directories (s : Store) (cwd : Path) (hp : p.Straight) (hshort : p.Short)
    (hdirs : ∀ q, q <+: p.parts.dropLast → s.at? q = some .directory) :
    s.locate cwd p = .ok p.parts := by
  rcases locate_cases s cwd hp with
    ⟨hok, -⟩ | ⟨-, hlong⟩ | ⟨q, hq, ⟨-, hwhy⟩ | ⟨-, bytes, hwhy⟩⟩
  · exact hok
  · exact absurd hshort hlong
  all_goals
    rw [hdirs q hq] at hwhy
    cases hwhy

/-- A directory is made, or is there, once its parent is and no file is in its place. -/
theorem exists_ensureDirectory (s : Store) (cwd : Path) (hloc : s.locate cwd p = .ok p.parts)
    (hfree : ∀ bytes, s.at? p.parts ≠ some (.file bytes)) :
    ∃ s', s.ensureDirectory cwd p = .ok s' := by
  cases hat : s.at? p.parts with
  | none =>
    exact ⟨s.insert p.parts .directory, by simp only [ensureDirectory, makeDirectory, hloc, hat]⟩
  | some entry =>
    cases entry with
    | file bytes => exact absurd hat (hfree bytes)
    | directory =>
      refine ⟨s, ?_⟩
      have hdir : s.isDirectory cwd p = true := by
        simp only [isDirectory, found?, lookup, hloc, hat, Except.toOption, decide_true]
      simp only [ensureDirectory, makeDirectory, hloc, hat, hdir, ↓reduceIte]

theorem exists_makeDirectories (s : Store) (cwd : Path) (hp : p.Straight) (hshort : p.Short) :
    ∀ {n : Nat}, n ≤ p.parts.length →
      (∀ q, q <+: p.parts.take n → ∀ bytes, s.at? q ≠ some (.file bytes)) →
      ∃ s', s.makeDirectories cwd p n = .ok s' := by
  intro n
  induction n with
  | zero => exact fun _ _ => ⟨s, rfl⟩
  | succ n ih =>
    intro hn hfree
    have hparts : p.parts.take (n + 1) = p.parts.take n ++ [p.parts[n]] :=
      List.take_succ_eq_append_getElem hn
    let dir : Path := { p with parts := p.parts.take (n + 1) }
    have hdir : dir.parts.dropLast = p.parts.take n := by
      rw [show dir.parts = p.parts.take n ++ [p.parts[n]] from hparts, List.dropLast_concat]
    have hdstraight : dir.Straight := hp.take _
    have hdshort : dir.Short := hshort.take hp.1 _
    have habove : ∀ q, q <+: p.parts.take n → ∀ bytes, s.at? q ≠ some (.file bytes) :=
      fun q hq => hfree q (hq.trans (hparts ▸ List.prefix_append _ _))
    have hself := hfree _ List.prefix_rfl
    rw [makeDirectories]
    rcases locate_of_free s cwd hdstraight hdshort (hdir ▸ habove) with hloc | hloc
    · obtain ⟨s', hs'⟩ := exists_ensureDirectory s cwd hloc hself
      refine ⟨s', ?_⟩
      have hmade : s.makeDirectory cwd dir ≠ .error .missing := by
        simp only [makeDirectory, hloc]
        split <;> simp
      split
      · next hmissing => exact absurd hmissing hmade
      · exact hs'
    · obtain ⟨s₁, hs₁⟩ := ih (Nat.le_of_succ_le hn) habove
      have hraised := makeDirectories_eq_ok hp (Nat.le_of_succ_le hn) hs₁
      have hnot : ¬ dir.parts <+: p.parts.take n := fun hpre => by
        have hlen := hpre.length_le
        simp only [dir, List.length_take] at hlen
        omega
      obtain ⟨s', hs'⟩ := exists_ensureDirectory s₁ cwd
        (locate_of_directories s₁ cwd hdstraight hdshort (hdir ▸ hraised.on_way))
        fun bytes => by
          rw [hraised.elsewhere _ hnot]
          exact hself bytes
      refine ⟨s', ?_⟩
      have hmade : s.makeDirectory cwd dir = .error .missing := by simp only [makeDirectory, hloc]
      simp only [dir] at hmade hs'
      rw [hmade]
      simp only [hs₁, hs']

/-- Where there is room a file can be written, once the directories are made. -/
theorem Room.exists_write {p : Path} (h : Room s p) (cwd : Path) (bytes : Text.Bytes) :
    ∃ s₁, s.makeDirectories cwd p.parent p.parent.parts.length = .ok s₁ ∧
      ∃ s', s₁.write cwd p bytes = .ok s' := by
  have hstraight := h.straight.parent
  have hshort : p.parent.Short := by
    rw [Path.parent, List.dropLast_eq_take]
    exact h.short.take h.straight.1 _
  obtain ⟨s₁, hs₁⟩ := exists_makeDirectories s cwd hstraight hshort (Nat.le_refl _)
    (by rw [List.take_length]; exact h.free)
  have hraised := makeDirectories_eq_ok hstraight (Nat.le_refl _) hs₁
  rw [List.take_length] at hraised
  have hloc := locate_of_directories s₁ cwd h.straight h.short hraised.on_way
  have hdir : s₁.at? p.parts ≠ some .directory := by
    by_cases hnil : p.parts = []
    · have := h.no_directory
      rw [hnil] at this
      exact absurd (at?_nil s) this
    · rw [hraised.elsewhere _ (not_prefix_dropLast hnil)]
      exact h.no_directory
  exact ⟨s₁, hs₁, s₁.insert p.parts (.file bytes), by simp only [write, hloc, if_neg hdir]⟩

end Store

end JsxTemplate
