import JsxTemplate.Proofs.Refreshing

/-!
# Staying in step

While templates are created, rewritten and deleted, and each of these changes is
reported, the modules stay in step with the templates, round after round.
-/

namespace JsxTemplate

/-! ## Edits -/

namespace Store

variable {s : Store} {cwd : Path}

theorem at?_filter {keep : Place → Entry → Bool} {q : Place} (hq : q ≠ []) :
    at? (s.filter keep) q = (s.at? q).filter (keep q) := by
  unfold at?
  rw [if_neg hq, if_neg hq]
  exact Std.TreeMap.getElem?_filter'

/-- A directory is put into one that has been raised, unless it is there. -/
theorem Raised.step {s₁ : Store} {dir : Place} {name : Text} (h : Raised s dir s₁)
    (hfree : ∀ bytes, s.at? (dir ++ [name]) ≠ some (.file bytes)) :
    Raised s (dir ++ [name])
      (if (s₁.at? (dir ++ [name])).isSome then s₁ else s₁.insert (dir ++ [name]) .directory) := by
  have hnot : ¬ dir ++ [name] <+: dir := fun hp => by
    have hlen := hp.length_le
    rw [List.length_append, List.length_singleton] at hlen
    omega
  cases hat : s₁.at? (dir ++ [name]) with
  | none => exact h.insert hat
  | some entry =>
    rw [Option.isSome_some, if_pos rfl]
    refine h.trans (List.prefix_append _ _) (Raised.refl fun q hq => ?_)
    rcases List.prefix_concat_iff.mp hq with rfl | hq
    · cases entry with
      | directory => exact hat
      | file bytes =>
        rw [h.elsewhere _ hnot] at hat
        exact absurd hat (hfree bytes)
    · exact h.on_way q hq

/-- Where no file is in the way directories are put on the whole way. -/
theorem putDirectories_raised {dir : Place}
    (hfree : ∀ q, q <+: dir → ∀ bytes, s.at? q ≠ some (.file bytes)) :
    Raised s dir (s.putDirectories dir) := by
  -- the directories are put from the root downwards, one name more at a time
  have hsteps : ∀ n, n ≤ dir.length →
      Raised s (dir.take n) ((List.range n).foldl (fun s n =>
        if (s.at? (dir.take (n + 1))).isSome then s
        else s.insert (dir.take (n + 1)) .directory) s) := by
    intro n
    induction n with
    | zero =>
      intro _
      refine Raised.refl fun q hq => ?_
      rw [List.take_zero, List.prefix_nil] at hq
      rw [hq, at?_nil]
    | succ n ih =>
      intro hn
      have hnext : dir.take (n + 1) = dir.take n ++ [dir[n]] :=
        List.take_succ_eq_append_getElem hn
      rw [List.range_succ, List.foldl_append, List.foldl_cons, List.foldl_nil, hnext]
      refine (ih (Nat.le_of_succ_le hn)).step ?_
      rw [← hnext]
      exact hfree _ (List.take_prefix _ _)
  have hall := hsteps dir.length (Nat.le_refl _)
  rw [List.take_length] at hall
  exact hall

end Store

/-- The path that an edit is about. -/
def Edit.path : Edit → Path
  | .makeDirectory path | .write path _ | .remove path => path

/-- An edit creates, rewrites or deletes a file whose path is of a kind, and nothing
prevents it: no file is in the way of the path and no directory at its end. -/
def Edit.Possible (kind : Path → Prop) (s : Store) (cwd : Path) : Edit → Prop
  | .makeDirectory _ => False
  | .write path _ =>
    kind (cwd.resolve path) ∧ s.at? (cwd.resolve path).parts ≠ some .directory ∧
      ∀ q, q <+: (cwd.resolve path).parts.dropLast → ∀ bytes, s.at? q ≠ some (.file bytes)
  | .remove path =>
    kind (cwd.resolve path) ∧ s.at? (cwd.resolve path).parts ≠ some .directory

/-- Edits that are possible one after the other. -/
def EditsPossible (kind : Path → Prop) (cwd : Path) : Store → List Edit → Prop
  | _, [] => True
  | s, e :: edits => e.Possible kind s cwd ∧ EditsPossible kind cwd (s.edit cwd e) edits

section Edits

variable {kind : Path → Prop} {s : Store} {cwd : Path} {e : Edit} {edits : List Edit}

theorem Edit.Possible.path_kind (h : e.Possible kind s cwd) : kind (cwd.resolve e.path) := by
  cases e with
  | makeDirectory path => exact h.elim
  | write path bytes => exact h.1
  | remove path => exact h.1

/-- Removing what is no directory clears its place only, for nothing stands below. -/
theorem Store.remove_cleared (htree : s.Tree) {path : Path}
    (hdir : s.at? (cwd.resolve path).parts ≠ some .directory) :
    s.Cleared (cwd.resolve path).parts (s.edit cwd (.remove path)) := by
  have hne := place_ne_nil hdir
  unfold edit
  refine ⟨hdir, ?_, fun q hq => ?_⟩
  · have hself : (cwd.resolve path).parts.isPrefixOf (cwd.resolve path).parts = true :=
      List.isPrefixOf_iff_prefix.mpr List.prefix_rfl
    rw [at?_filter hne, hself]
    cases s.at? (cwd.resolve path).parts <;> rfl
  · by_cases hnil : q = []
    · rw [hnil, at?_nil, at?_nil]
    · rw [at?_filter hnil]
      by_cases hbelow : (cwd.resolve path).parts <+: q
      · obtain ⟨rest, rfl⟩ := hbelow
        have hrest : rest ≠ [] := by
          rintro rfl
          exact hq (List.append_nil _)
        rw [htree.none_below hdir hrest, Option.filter_none]
      · have hkeep : (cwd.resolve path).parts.isPrefixOf q = false :=
          Bool.eq_false_iff.mpr fun h => hbelow (List.isPrefixOf_iff_prefix.mp h)
        rw [hkeep]
        cases s.at? q <;> rfl

/-- An edit leaves all files but its own and all directories as they are. -/
theorem Edit.Possible.kept (h : e.Possible kind s cwd) (htree : s.Tree) :
    s.Kept (cwd.resolve e.path).parts (s.edit cwd e) := by
  cases e with
  | makeDirectory path => exact h.elim
  | write path bytes =>
    obtain ⟨-, hdir, hfree⟩ := h
    have hne := Store.place_ne_nil hdir
    exact ((Store.putDirectories_raised hfree).put hne hdir).kept htree
  | remove path => exact (Store.remove_cleared htree h.2).kept htree

namespace EditsPossible

theorem tree (h : EditsPossible kind cwd s edits) (htree : s.Tree) :
    Store.Tree (edits.foldl (·.edit cwd ·) s) := by
  induction edits generalizing s with
  | nil => exact htree
  | cons e edits ih => exact ih h.2 (h.1.kept htree).tree

theorem directories (h : EditsPossible kind cwd s edits) (htree : s.Tree) {place : Place}
    (hdir : s.at? place = some .directory) :
    Store.at? (edits.foldl (·.edit cwd ·) s) place = some .directory := by
  induction edits generalizing s with
  | nil => exact hdir
  | cons e edits ih => exact ih h.2 (h.1.kept htree).tree ((h.1.kept htree).directories place hdir)

theorem path_kind (h : EditsPossible kind cwd s edits) (he : e ∈ edits) :
    kind (cwd.resolve e.path) := by
  induction edits generalizing s with
  | nil => cases he
  | cons first edits ih =>
    rcases List.mem_cons.mp he with rfl | he
    · exact h.1.path_kind
    · exact ih h.2 he

/-- A file that no edit is about is as it was. -/
theorem files (h : EditsPossible kind cwd s edits) (htree : s.Tree) {place : Place}
    (hplace : ∀ e ∈ edits, place ≠ (cwd.resolve e.path).parts) (bytes : Text.Bytes) :
    Store.at? (edits.foldl (·.edit cwd ·) s) place = some (.file bytes) ↔
      s.at? place = some (.file bytes) := by
  induction edits generalizing s with
  | nil => rfl
  | cons e edits ih =>
    obtain ⟨hfirst, hrest⟩ := List.forall_mem_cons.mp hplace
    rw [List.foldl_cons, ih h.2 (h.1.kept htree).tree hrest]
    exact (h.1.kept htree).files place hfirst bytes

end EditsPossible

end Edits

/-! ## Reports -/

/-- The world after edits that others have made. -/
def World.edited (w : World) (edits : List Edit) : World :=
  { w with files := edits.foldl (·.edit w.cwd ·) w.files }

/-- The paths with the suffix of templates that changes report, each once, in order. -/
def World.reported (w : World) (config : Config) (changes : List Change) : List Path :=
  Session.templatesAmong config.templateSuffix (changes.filterMap fun c => w.cwd.resolve? c.path)

variable {config : Config} {src out : Path} {w : World} {changes : List Change}

theorem Session.mem_templatesAmong {suffix : Text} {paths : List Path} {p : Path} :
    p ∈ templatesAmong suffix paths ↔ p ∈ paths ∧ p.suffix = suffix := by
  unfold templatesAmong
  rw [Std.TreeSet.mem_toList, ← Std.TreeSet.contains_iff_mem, Std.TreeSet.contains_ofList]
  simp

theorem World.mem_reported {p : Path} :
    p ∈ w.reported config changes ↔
      (∃ c ∈ changes, w.cwd.resolve? c.path = some p) ∧ p.suffix = config.templateSuffix := by
  rw [World.reported, Session.mem_templatesAmong, List.mem_filterMap]

theorem World.reported_ordered :
    (w.reported config changes).Pairwise fun p q => compare p q = .lt :=
  Std.TreeSet.ordered_toList

theorem World.reported_nodup : (w.reported config changes).Nodup :=
  Path.nodup_of_ordered World.reported_ordered

namespace Session

/-- The paths of changes are completed in turn, up to the first that can be none. -/
theorem run_mapM_resolve (changes : List Change) (w : World) :
    ((∀ c ∈ changes, w.cwd.resolve? c.path ≠ none) ∧
      (changes.mapM fun c => resolve c.path).run w =
        .ok (changes.filterMap fun c => w.cwd.resolve? c.path) w) ∨
    (∃ c ∈ changes, w.cwd.resolve? c.path = none) ∧
      (changes.mapM fun c => resolve c.path).run w = .error .zeroInPath w := by
  induction changes with
  | nil => exact .inl ⟨List.forall_mem_nil _, rfl⟩
  | cons c changes ih =>
    rw [List.mapM_cons, List.forall_mem_cons]
    have hfirst := run_resolve c.path w
    cases hc : w.cwd.resolve? c.path with
    | none =>
      rw [hc] at hfirst
      exact .inr ⟨⟨c, List.mem_cons_self, hc⟩, bind_of_error hfirst⟩
    | some p =>
      rw [hc] at hfirst
      rw [bind_of_ok hfirst]
      rcases ih with ⟨hall, hrest⟩ | ⟨⟨d, hd, hzero⟩, hrest⟩
      · refine .inl ⟨⟨Option.some_ne_none p, hall⟩, ?_⟩
        rw [bind_of_ok hrest, List.filterMap_cons, hc]
        rfl
      · exact .inr ⟨⟨d, List.mem_cons_of_mem _ hd, hzero⟩, bind_of_error hrest⟩

/-- Applying changes brings the reported templates up to date, one after the other, if the
paths of the changes can be ones; otherwise nothing is done. -/
theorem run_applyChanges (config : Config) (src out : Path) (changes : List Change) (w : World) :
    ((∀ c ∈ changes, w.cwd.resolve? c.path ≠ none) ∧
      (applyChanges config src out changes).run w =
        ((w.reported config changes).mapM (refresh config src out) >>= fun mades =>
          pure (mades.filterMap id)).run w) ∨
    (∃ c ∈ changes, w.cwd.resolve? c.path = none) ∧
      (applyChanges config src out changes).run w = .error .zeroInPath w := by
  unfold applyChanges
  rcases run_mapM_resolve changes w with ⟨hpaths, hrun⟩ | ⟨hzero, hrun⟩
  · exact .inl ⟨hpaths, bind_of_ok hrun⟩
  · exact .inr ⟨hzero, bind_of_error hrun⟩

theorem run_applyChanges_of_paths (h : ∀ c ∈ changes, w.cwd.resolve? c.path ≠ none) :
    (applyChanges config src out changes).run w =
      ((w.reported config changes).mapM (refresh config src out) >>= fun mades =>
        pure (mades.filterMap id)).run w := by
  rcases run_applyChanges config src out changes w with ⟨-, hrun⟩ | ⟨⟨c, hc, hnone⟩, -⟩
  · exact hrun
  · exact absurd hnone (h c hc)

theorem straight_of_mem_reported {p : Path} (hp : p ∈ w.reported config changes) : p.Straight := by
  obtain ⟨⟨c, -, hc⟩, -⟩ := World.mem_reported.mp hp
  exact Path.straight_of_resolve? hc

/-- What comes of a list of changes: all reported paths are brought up to date, or
something stops the session. -/
theorem applyChanges_cases (lay : Layout config src out) (htree : w.files.Tree)
    (changes : List Change) :
    (∃ mades w', (applyChanges config src out changes).run w = .ok (mades.filterMap id) w' ∧
      RefreshedAll config src out w.files (w.reported config changes) mades w'.files) ∨
    ∃ f w', (applyChanges config src out changes).run w = .error f w' ∧
      (f.ofSystem = true ∨
        ∃ p ∈ w.reported config changes, Stops w.host config src out w.files p f) := by
  rcases run_applyChanges config src out changes w with ⟨-, hpaths⟩ | ⟨-, hzero⟩
  · rw [hpaths]
    have hreported : ∀ p ∈ w.reported config changes,
        p.Straight ∧ p.suffix = config.templateSuffix := fun p hp =>
      ⟨straight_of_mem_reported hp, (World.mem_reported.mp hp).2⟩
    rcases mapM_refresh_cases lay hreported htree with
      ⟨mades, w', hrun, -, hmades⟩ | ⟨f, w', hrun, hstop⟩
    · exact .inl ⟨mades, w', bind_of_ok hrun, hmades⟩
    · exact .inr ⟨f, w', bind_of_error hrun, .inr hstop⟩
  · exact .inr ⟨_, w, hzero, .inl rfl⟩

end Session

/-! ## Rounds -/

/-- Every template has its module, made from what it holds now. -/
def InSync (config : Config) (src out : Path) (s : Store) : Prop :=
  ∀ t bytes, IsTemplate config src out t → s.at? t.parts = some (.file bytes) →
    ∃ target source, t.output src out config.extension = .ok target ∧
      config.moduleOf t bytes = .ok source ∧
      s.at? target.parts = some (.file source.encode)

/-- A round of edits to templates: they are possible, each is reported, all templates
compile on the host after them, and the system refuses nothing, neither a file nor a path in
a report (as it does if the character zero is in it). -/
structure Fair (config : Config) (src out : Path) (w : World) (batch : Batch) : Prop where
  possible : EditsPossible (IsTemplate config src out) w.cwd w.files batch.edits
  reported : ∀ e ∈ batch.edits,
    ∃ c ∈ batch.changes, w.cwd.resolve? c.path = some (w.cwd.resolve e.path)
  compile : ∀ t bytes, IsTemplate config src out t →
    (w.edited batch.edits).files.at? t.parts = some (.file bytes) →
    ∃ source, w.host.moduleOf config t bytes = .ok source
  accepted : ∀ f w', (Session.applyChanges config src out batch.changes).run
    (w.edited batch.edits) = .error f w' → f.ofSystem = false

/-- What a round has done when it leaves `w'` and says that it has written `outs`. -/
structure Done (config : Config) (src out : Path) (w : World) (batch : Batch)
    (outs : List Path) (w' : World) : Prop where
  in_sync : InSync config src out w'.files
  /-- No file is left where the module of a deleted template was. Nothing at all is there,
  but for one case: a directory is, if the module of another template stands below it. -/
  gone : ∀ e ∈ batch.edits, ∀ target,
    (w.cwd.resolve e.path).output src out config.extension = .ok target →
    (∀ bytes, (w.edited batch.edits).files.at? (w.cwd.resolve e.path).parts ≠
      some (.file bytes)) →
    (∀ bytes, w'.files.at? target.parts ≠ some (.file bytes)) ∧
      (w'.files.at? target.parts = none ∨
        ∃ t other, IsTemplate config src out t ∧ t.output src out config.extension = .ok other ∧
          (∃ bytes, w'.files.at? t.parts = some (.file bytes)) ∧ target.parts <+: other.parts)
  /-- The modules of the reported templates that exist have been written, in the order
  of the templates. -/
  outputs : ∃ ts : List Path, ts.Pairwise (fun t u => compare t u = .lt) ∧
    (∀ t, t ∈ ts ↔ IsTemplate config src out t ∧
      (∃ c ∈ batch.changes, w.cwd.resolve? c.path = some t) ∧
      ∃ bytes, (w.edited batch.edits).files.at? t.parts = some (.file bytes)) ∧
    outs.map Except.ok = ts.map (·.output src out config.extension)

section Round

variable {batch : Batch} {w' : World}

theorem IsTemplate.eq_of_parts {t u : Path} (ht : IsTemplate config src out t)
    (hu : IsTemplate config src out u) (h : t.parts = u.parts) : t = u :=
  Path.eq_of_parts (ht.root.trans hu.root.symm) h

/-- A template that is not reported has not been edited. -/
theorem Fair.unreported_file (hfair : Fair config src out w batch) (htree : w.files.Tree)
    {t : Path} (ht : IsTemplate config src out t)
    (hnot : t ∉ w.reported config batch.changes) (bytes : Text.Bytes) :
    (w.edited batch.edits).files.at? t.parts = some (.file bytes) ↔
      w.files.at? t.parts = some (.file bytes) := by
  refine hfair.possible.files htree (fun e he hplace => hnot ?_) bytes
  have hedited := hfair.possible.path_kind he
  rw [ht.eq_of_parts hedited hplace]
  exact World.mem_reported.mpr ⟨hfair.reported e he, hedited.suffix⟩

/-- Edits to templates leave the modules as they are. -/
theorem EditsPossible.module_file (lay : Layout config src out)
    (h : EditsPossible (IsTemplate config src out) w.cwd w.files batch.edits) (htree : w.files.Tree)
    {t target : Path} (hout : t.output src out config.extension = .ok target)
    (bytes : Text.Bytes) :
    (w.edited batch.edits).files.at? target.parts = some (.file bytes) ↔
      w.files.at? target.parts = some (.file bytes) :=
  h.files htree (fun _ he hplace =>
    lay.place_ne_output (h.path_kind he).suffix hout hplace.symm) bytes

theorem InSync.after (lay : Layout config src out) (htree : w.files.Tree)
    (hsync : InSync config src out w.files) (hfair : Fair config src out w batch)
    {mades : List (Option Path)}
    (hmades : RefreshedAll config src out (w.edited batch.edits).files
      (w.reported config batch.changes) mades w'.files) :
    InSync config src out w'.files := by
  have htree' : (w.edited batch.edits).files.Tree := hfair.possible.tree htree
  have hsuffixes : ∀ p ∈ w.reported config batch.changes, p.suffix = config.templateSuffix :=
    fun p hp => (World.mem_reported.mp hp).2
  intro t bytes ht hfile
  rw [hmades.template_file lay htree' ht.suffix] at hfile
  obtain ⟨source, hmade⟩ := hfair.compile t bytes ht hfile
  have hmodule := Host.moduleOf_eq_ok hmade
  obtain ⟨target, hout⟩ := lay.exists_output ht
  refine ⟨target, source, hout, hmodule, ?_⟩
  by_cases hmem : t ∈ w.reported config batch.changes
  · exact hmades.written lay htree' World.reported_nodup hsuffixes hmem hout hfile hmodule
  · -- the module was up to date before the round and nothing has touched it
    rw [hfair.unreported_file htree ht hmem] at hfile
    obtain ⟨target', source', hout', hmodule', hthere⟩ := hsync t bytes ht hfile
    obtain rfl := Except.ok.inj (hout'.symm.trans hout)
    obtain rfl := Except.ok.inj (hmodule'.symm.trans hmodule)
    rw [hmades.files htree' (RefreshedAll.apart hsuffixes ht.suffix hmem hout),
      hfair.possible.module_file lay htree hout]
    exact hthere

/-- A reported path with a module is a template. -/
theorem isTemplate_of_reported {p target : Path} (hp : p ∈ w.reported config changes)
    (hout : p.output src out config.extension = .ok target) : IsTemplate config src out p := by
  exact Layout.isTemplate_of_output (Session.straight_of_mem_reported hp)
    (World.mem_reported.mp hp).2 hout

theorem Fair.gone (lay : Layout config src out) (htree : w.files.Tree)
    (hfair : Fair config src out w batch) {mades : List (Option Path)}
    (hmades : RefreshedAll config src out (w.edited batch.edits).files
      (w.reported config batch.changes) mades w'.files) {e : Edit} (he : e ∈ batch.edits)
    {target : Path} (hout : (w.cwd.resolve e.path).output src out config.extension = .ok target)
    (hgone : ∀ bytes, (w.edited batch.edits).files.at? (w.cwd.resolve e.path).parts ≠
      some (.file bytes)) :
    (∀ bytes, w'.files.at? target.parts ≠ some (.file bytes)) ∧
      (w'.files.at? target.parts = none ∨
        ∃ t other, IsTemplate config src out t ∧ t.output src out config.extension = .ok other ∧
          (∃ bytes, w'.files.at? t.parts = some (.file bytes)) ∧
          target.parts <+: other.parts) := by
  have htree' : (w.edited batch.edits).files.Tree := hfair.possible.tree htree
  have hmem : w.cwd.resolve e.path ∈ w.reported config batch.changes :=
    World.mem_reported.mpr ⟨hfair.reported e he, (hfair.possible.path_kind he).suffix⟩
  obtain ⟨hnofile, hnone⟩ := hmades.removed lay htree' World.reported_nodup
    (fun p hp => (World.mem_reported.mp hp).2) hmem hout hgone
  refine ⟨hnofile, ?_⟩
  by_contra hneither
  obtain ⟨hat, hother⟩ := not_or.mp hneither
  refine hat (hnone fun q hq other hqout ⟨bytes, hfile⟩ hbelow => hother ?_)
  have hq' := isTemplate_of_reported hq hqout
  exact ⟨q, other, hq', hqout,
    ⟨bytes, (hmades.template_file lay htree' hq'.suffix bytes).mpr hfile⟩, hbelow⟩

theorem Fair.outputs (lay : Layout config src out) (htree : w.files.Tree)
    (hfair : Fair config src out w batch) {mades : List (Option Path)}
    (hmades : RefreshedAll config src out (w.edited batch.edits).files
      (w.reported config batch.changes) mades w'.files) :
    ∃ ts : List Path, ts.Pairwise (fun t u => compare t u = .lt) ∧
      (∀ t, t ∈ ts ↔ IsTemplate config src out t ∧
        (∃ c ∈ batch.changes, w.cwd.resolve? c.path = some t) ∧
        ∃ bytes, (w.edited batch.edits).files.at? t.parts = some (.file bytes)) ∧
      (mades.filterMap id).map Except.ok = ts.map (·.output src out config.extension) := by
  obtain ⟨ts, hsub, hmem, hmade⟩ := hmades.made lay (hfair.possible.tree htree)
    fun p hp => (World.mem_reported.mp hp).2
  refine ⟨ts, World.reported_ordered.sublist hsub, fun t => ?_, hmade⟩
  rw [hmem t]
  constructor
  · rintro ⟨ht, target, bytes, source, hout, hfile, -⟩
    exact ⟨isTemplate_of_reported ht hout, (World.mem_reported.mp ht).1, bytes, hfile⟩
  · rintro ⟨ht, hreported, bytes, hfile⟩
    obtain ⟨target, hout⟩ := lay.exists_output ht
    obtain ⟨source, hmodule⟩ := hfair.compile t bytes ht hfile
    exact ⟨World.mem_reported.mpr ⟨hreported, ht.suffix⟩, target, bytes, source, hout, hfile,
      Host.moduleOf_eq_ok hmodule⟩

/-- A fair round comes to its end and leaves the files in step. -/
theorem Fair.exists_done (lay : Layout config src out) (htree : w.files.Tree)
    (hshown : w.host.ShowsAll) (hsync : InSync config src out w.files)
    (hfair : Fair config src out w batch) :
    ∃ outs w', (Session.applyChanges config src out batch.changes).run (w.edited batch.edits) =
        .ok outs w' ∧
      Done config src out w batch outs w' ∧ w'.files.Tree := by
  have htree' : (w.edited batch.edits).files.Tree := hfair.possible.tree htree
  rcases @Session.applyChanges_cases _ _ _ (w.edited batch.edits) lay htree' batch.changes with
    ⟨mades, w', hrun, hmades⟩ | ⟨f, w', hrun, hf⟩
  · refine ⟨_, w', hrun, ⟨hsync.after lay htree hfair hmades, ?_, ?_⟩, hmades.tree htree'⟩
    · intro e he target hout hgone
      exact hfair.gone lay htree hmades he hout hgone
    · exact hfair.outputs lay htree hmades
  · -- a failure would be the system's, or the fault of a template
    have haccepted := hfair.accepted f w' hrun
    rcases hf with hf | ⟨p, hp, hf | ⟨bytes, target, hout, hfile, hfault⟩⟩
    · rw [hf] at haccepted
      cases haccepted
    · rw [hshown.ofSystem hf] at haccepted
      cases haccepted
    · have ht := isTemplate_of_reported hp hout
      obtain ⟨source, hmodule⟩ := hfair.compile p bytes ht hfile
      cases hfault.symm.trans hmodule

end Round

/-- Rounds that are fair, each in the world that the ones before it leave. -/
def FairRounds (config : Config) (src out : Path) : World → List Batch → Prop
  | _, [] => True
  | w, batch :: batches => Fair config src out w batch ∧
    ∀ outs w', (Session.applyChanges config src out batch.changes).run (w.edited batch.edits) =
      .ok outs w' → FairRounds config src out w' batches

/-- Rounds that come to their ends, each having done its work. -/
def DoneRounds (config : Config) (src out : Path) : World → List Batch → Prop
  | _, [] => True
  | w, batch :: batches => ∃ outs w',
    (Session.applyChanges config src out batch.changes).run (w.edited batch.edits) = .ok outs w' ∧
      Done config src out w batch outs w' ∧ DoneRounds config src out w' batches

/-- Watching keeps the modules in step with the templates, round after round, if every notice
can be shown. -/
theorem rounds_stay_in_sync {batches : List Batch} (lay : Layout config src out)
    (htree : w.files.Tree) (hshown : w.host.ShowsAll) (hsync : InSync config src out w.files)
    (hfair : FairRounds config src out w batches) : DoneRounds config src out w batches := by
  induction batches generalizing w with
  | nil => exact hfair
  | cons batch batches ih =>
    obtain ⟨outs, w', hrun, hdone, htree'⟩ := hfair.1.exists_done lay htree hshown hsync
    have hhost : w'.host = w.host :=
      ((Session.steady_applyChanges config src out batch.changes).of_ok hrun).2
    exact ⟨outs, w', hrun, hdone,
      ih htree' (hhost ▸ hshown) hdone.in_sync (hfair.2 outs w' hrun)⟩

/-! ## An example -/

/-- What a look at all entries shows of the templates among them. -/
theorem forall_templates {s : Store} {check : Path → Text.Bytes → Bool}
    (h : s.toList.all (fun x =>
      match x.2 with
      | .directory => true
      | .file bytes =>
        !decide (IsTemplate config src out ⟨src.root, x.1⟩) || check ⟨src.root, x.1⟩ bytes) = true)
    {t : Path} {bytes : Text.Bytes} (ht : IsTemplate config src out t)
    (hfile : s.at? t.parts = some (.file bytes)) : check t bytes = true := by
  have hself : t = ⟨src.root, t.parts⟩ := by
    rw [← ht.root]
  have hne := Store.place_ne_nil_of_file hfile
  have hcheck := List.all_eq_true.mp h _ (Store.mem_toList_of_at? hne hfile)
  simp only [← hself, decide_eq_true ht, Bool.not_true, Bool.false_or] at hcheck
  exact hcheck

/-- What a look at all entries shows, if all templates among them compile. -/
theorem exists_module {host : Host} {s : Store}
    (h : s.toList.all (fun x =>
      match x.2 with
      | .directory => true
      | .file bytes =>
        !decide (IsTemplate config src out ⟨src.root, x.1⟩) ||
          (host.moduleOf config ⟨src.root, x.1⟩ bytes).toOption.isSome) = true)
    {t : Path} {bytes : Text.Bytes} (ht : IsTemplate config src out t)
    (hfile : s.at? t.parts = some (.file bytes)) :
    ∃ source, host.moduleOf config t bytes = .ok source := by
  have hcheck := @forall_templates config src out s
    (fun t bytes => (host.moduleOf config t bytes).toOption.isSome) h t bytes ht hfile
  cases hmodule : host.moduleOf config t bytes with
  | ok source => exact ⟨source, rfl⟩
  | error f =>
    rw [hmodule] at hcheck
    cases hcheck

def syncedEntries : List (Place × Entry) :=
  [(["s"], .directory), (["s", "a.html"], .file rule), (["s", "a.jsx"], .file (ruleModule "A"))]

/-- A directory with one template and its module beside it. -/
def syncedWorld : World :=
  { cwd := ⟨.slash, []⟩, files := Std.TreeMap.ofList syncedEntries compare }

/-- The template gets another name, which is reported late, twice and in the wrong way. -/
def renameBatch : Batch where
  edits := [.write ⟨.slash, ["s", "b.html"]⟩ rule, .remove ⟨.slash, ["s", "a.html"]⟩]
  changes := [⟨.deleted, ⟨.doubleSlash, ["s", "b.html"]⟩⟩, ⟨.modified, ⟨.slash, ["s", "a.html"]⟩⟩,
    ⟨.added, ⟨.slash, ["s", "b.html"]⟩⟩]

theorem synced_layout : Layout {} ⟨.slash, ["s"]⟩ ⟨.slash, ["s"]⟩ :=
  ⟨by decide, by decide, by decide, by decide, by decide⟩

theorem syncedWorld_in_sync : InSync {} ⟨.slash, ["s"]⟩ ⟨.slash, ["s"]⟩ syncedWorld.files := by
  intro t bytes ht hfile
  have hcheck := @forall_templates {} ⟨.slash, ["s"]⟩ ⟨.slash, ["s"]⟩ syncedWorld.files
    (fun t bytes =>
      match t.output ⟨.slash, ["s"]⟩ ⟨.slash, ["s"]⟩ ".jsx", Config.moduleOf {} t bytes with
      | .ok target, .ok source => syncedWorld.files.at? target.parts = some (.file source.encode)
      | _, _ => false) (by decide +kernel) t bytes ht hfile
  split at hcheck
  · next target source hout hmodule =>
    exact ⟨target, source, hout, hmodule, of_decide_eq_true hcheck⟩
  · cases hcheck

theorem renameBatch_fair :
    Fair {} ⟨.slash, ["s"]⟩ ⟨.slash, ["s"]⟩ syncedWorld renameBatch where
  possible := by
    refine ⟨⟨by decide, by decide +kernel, ?_⟩, ⟨by decide, by decide +kernel⟩, trivial⟩
    have htree : syncedWorld.files.Tree := by decide +kernel
    have hdir : syncedWorld.files.at? ["s"] = some .directory := by decide +kernel
    exact fun q hq => htree.no_file_above hdir hq
  reported := by decide
  compile t bytes ht hfile :=
    @exists_module {} ⟨.slash, ["s"]⟩ ⟨.slash, ["s"]⟩ {}
      (syncedWorld.edited renameBatch.edits).files (by decide +kernel) t bytes ht hfile
  accepted f w' hrun := by
    have hok : ((Session.applyChanges {} ⟨.slash, ["s"]⟩ ⟨.slash, ["s"]⟩
        renameBatch.changes).run' (syncedWorld.edited renameBatch.edits)).isSome = true := by
      decide +kernel
    unfold EStateM.run' at hok
    rw [hrun] at hok
    cases hok

theorem renaming_stays_in_sync :
    Layout {} ⟨.slash, ["s"]⟩ ⟨.slash, ["s"]⟩ ∧ syncedWorld.files.Tree ∧
      syncedWorld.host.ShowsAll ∧
      InSync {} ⟨.slash, ["s"]⟩ ⟨.slash, ["s"]⟩ syncedWorld.files ∧
      Fair {} ⟨.slash, ["s"]⟩ ⟨.slash, ["s"]⟩ syncedWorld renameBatch ∧
      DoneRounds {} ⟨.slash, ["s"]⟩ ⟨.slash, ["s"]⟩ syncedWorld [renameBatch] :=
  ⟨synced_layout, by decide +kernel, fun _ => rfl, syncedWorld_in_sync, renameBatch_fair,
    rounds_stay_in_sync synced_layout (by decide +kernel) (fun _ => rfl) syncedWorld_in_sync
      ⟨renameBatch_fair, fun _ _ _ => trivial⟩⟩

end JsxTemplate
