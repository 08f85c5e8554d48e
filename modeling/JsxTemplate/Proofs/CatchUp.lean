import JsxTemplate.Command.Task
import JsxTemplate.Proofs.Building
import JsxTemplate.Proofs.Watching

/-!
# Catching up

Watching starts with a build, which stops at the first template with an error, and
goes on with the reported templates, of which it passes over those with an error. A
template that the first build came to or that is reported at some time has its module
in the end. One after a template with an error that is never reported has not.
-/

namespace JsxTemplate

variable {config : Config} {src out t u p target other : Path} {x : Text}

/-! ## Names that end in the suffix -/

/-- A path below the directory of templates whose name ends in their suffix. The name
can be the suffix alone, which makes it no template for those that watch. -/
structure IsSource (config : Config) (src p : Path) : Prop where
  straight : p.Straight
  root : p.root = src.root
  below : ∃ names, names ≠ [] ∧ p.parts = src.parts ++ names
  ends : config.templateSuffix <:+ p.name

namespace Path

/-- A name that is a dotted word and nothing else is a stem without a suffix. -/
theorem stem_of_dotted (hx : '.' ∉ x) (hname : p.name = '.' :: x) : p.stem = '.' :: x := by
  have hcut : Text.cutLast? (· == '.') p.name = some ([], '.' :: x) := by
    rw [hname]
    refine Text.cutLast?_append rfl (fun d hd => ?_) []
    exact beq_eq_false_iff_ne.mpr fun he => hx (he ▸ hd)
  unfold stem splitName
  rw [hcut]
  exact hname

/-- A path below a directory ends in its name. -/
theorem parts_of_below {names : List Text} (hne : names ≠ [])
    (hparts : p.parts = src.parts ++ names) :
    p.parts = src.parts ++ names.dropLast ++ [p.name] := by
  have hlast : names.getLast hne = p.name := by
    rw [← name_append p.root src.parts hne, ← hparts]
  rw [← hlast, List.append_assoc, List.dropLast_concat_getLast, hparts]

/-- A template's module is not written over for a later file. Only a file whose name is
the suffix alone can have the same module, and that one is earlier. -/
theorem output_ne_of_lt {extension : Text} (hx : '.' ∉ x) (hxne : x ≠ [])
    (hallowed : suffixAllowed extension) (ht : t.suffix = '.' :: x) (hroot : t.root = src.root)
    (hbelow : ∃ names, names ≠ [] ∧ t.parts = src.parts ++ names)
    (hu : '.' :: x <:+ u.name) (huroot : u.root = src.root)
    (hubelow : ∃ names, names ≠ [] ∧ u.parts = src.parts ++ names)
    (hlt : compare t u = .lt) (hout : t.output src out extension = .ok target)
    (hother : u.output src out extension = .ok other) : target.parts ≠ other.parts := by
  intro hplace
  obtain ⟨before, hname⟩ := hu
  by_cases hbefore : before = []
  · obtain ⟨names, hne, hparts⟩ := hbelow
    obtain ⟨names', hne', hparts'⟩ := hubelow
    rw [hbefore, List.nil_append] at hname
    have htname : t.name ≠ [] := name_ne_nil_of_suffix (ht ▸ List.cons_ne_nil _ _)
    have huname : u.name ≠ [] := hname ▸ List.cons_ne_nil _ _
    rw [output_of_below hroot hparts hne htname hallowed] at hout
    rw [output_of_below huroot hparts' hne' huname hallowed] at hother
    cases hout
    cases hother
    obtain ⟨hdirs, hlast⟩ := List.append_inj' hplace rfl
    have hstem : t.stem = '.' :: x :=
      (List.append_cancel_right (List.singleton_inj.mp hlast)).trans (stem_of_dotted hx hname.symm)
    have hlong : t.name = u.name ++ '.' :: x := by
      rw [← stem_append_suffix t, hstem, ht, ← hname]
    -- the two stand in one directory, and the shorter name comes first
    have hgt : compare u t = .lt := by
      rw [compare_of_root (huroot.trans hroot.symm), parts_of_below hne hparts,
        parts_of_below hne' hparts', List.append_cancel_left hdirs, compare_append,
        List.compare_cons_cons, hlong]
      nth_rewrite 1 [← List.append_nil u.name]
      rw [compare_append]
      rfl
    rw [Std.OrientedCmp.gt_of_lt hgt] at hlt
    cases hlt
  · have hsuffix : u.suffix = '.' :: x := suffix_of_name hx hxne hbefore hname.symm
    have hsame := output_inj hout hother (ht.trans hsuffix.symm) hplace
    have hself : compare t u = .eq := hsame ▸ Std.ReflCmp.compare_self
    rw [hself] at hlt
    cases hlt

end Path

/-- No module stands where a name ends in the suffix of templates. -/
theorem Layout.place_ne_output_of_ends (lay : Layout config src out) (hx : '.' ∉ x)
    (hsuffix : config.templateSuffix = '.' :: x) (hp : config.templateSuffix <:+ p.name)
    (hout : u.output src out config.extension = .ok target) : p.parts ≠ target.parts := by
  intro hplace
  have hends : '.' :: x <:+ target.name := by
    rw [Path.name, ← hplace, ← hsuffix]
    exact hp
  have hextension := (Config.dots lay.fault).1
  exact lay.apart (hsuffix ▸ Path.suffix_extension_of_output hx hextension hout hends)

/-! ## The first build -/

/-- If the template is there and compiles, its module is there. -/
def UpToDate (config : Config) (src out : Path) (s : Store) (t : Path) : Prop :=
  ∀ bytes source target, s.at? t.parts = some (.file bytes) →
    config.moduleOf t bytes = .ok source → t.output src out config.extension = .ok target →
    s.at? target.parts = some (.file source.encode)

/-- The first build of a session leaves a world: it comes to its end, or a template with
an error stops it. -/
def FirstBuilt (config : Config) (src : Path) (out : Option Path) (w w₁ : World) : Prop :=
  (∃ summary, (Session.build config src out).run w = .ok summary w₁) ∨
    ∃ e, (Session.build config src out).run w = .error (.template e) w₁

section FirstBuild

variable {w w₁ w₂ : World} {src S O : Path} {out : Option Path}

theorem FirstBuilt.unique (h : FirstBuilt config src out w w₁)
    (h' : FirstBuilt config src out w w₂) : w₁ = w₂ := by
  rcases h with ⟨summary, hrun⟩ | ⟨e, hrun⟩
  · rcases h' with ⟨summary', hrun'⟩ | ⟨e', hrun'⟩
    · rw [hrun] at hrun'
      cases hrun'
      rfl
    · rw [hrun] at hrun'
      cases hrun'
  · rcases h' with ⟨summary', hrun'⟩ | ⟨e', hrun'⟩
    · rw [hrun] at hrun'
      cases hrun'
    · rw [hrun] at hrun'
      cases hrun'
      rfl

theorem FirstBuilt.stays (h : FirstBuilt config src out w w₁) : Session.Stays w w₁ := by
  rcases h with ⟨summary, hrun⟩ | ⟨e, hrun⟩
  · exact (Session.steady_build config src out).of_ok hrun
  · exact (Session.steady_build config src out).of_error hrun

/-- Nothing else than an error in a template has stopped the build. -/
theorem FirstBuilt.not_foreign {f : Failure} (h : FirstBuilt config src out w w₁)
    (hrun : (Session.build config src out).run w = .error f w₂) : ¬ f.Foreign := by
  rcases h with ⟨summary, hok⟩ | ⟨e, herror⟩
  · rw [hok] at hrun
    cases hrun
  · rw [herror] at hrun
    cases hrun
    exact fun hforeign => hforeign e rfl

/-- A build comes to its templates only if the directories can be ones and the one of the
templates is there. -/
theorem FirstBuilt.ready (h : FirstBuilt config src out w w₁) (hS : w.cwd.resolve src = S)
    (hO : w.outDirectory src out = O) :
    Directories w src out S O ∧ w.files.isDirectory w.cwd S = true := by
  have hfails : ∀ f w', (Session.build config src out).run w = .error f w' → ¬ f.Foreign :=
    fun _ _ => h.not_foreign
  unfold Session.build at hfails
  cases hsrc : (Session.resolve src).run w with
  | error f w' =>
    exact absurd (Session.foreign_resolve _ _ _ _ hsrc) (hfails f w' (Session.bind_of_error hsrc))
  | ok found w' =>
    rw [Session.bind_of_ok hsrc] at hfails
    cases hout : ((out.map Session.resolve).getD (pure found)).run w' with
    | error f w'' =>
      exact absurd (Session.foreign_outDirectory _ _ _ _ _ hout)
        (hfails f w'' (Session.bind_of_error hout))
    | ok place w'' =>
      rw [Session.bind_of_ok hout] at hfails
      obtain ⟨hdirs, rfl⟩ := Directories.of_run hsrc hout
      obtain ⟨rfl, rfl⟩ := hdirs.eq
      subst hS hO
      refine ⟨hdirs, ?_⟩
      rcases Session.look_outcome (w''.cwd.resolve src) w'' with ⟨entry, hlook⟩ | ⟨f, hlook⟩
      · rw [Session.bind_of_ok hlook] at hfails
        by_cases hentry : entry = some .directory
        · subst hentry
          exact Store.isDirectory_of_lookup (Session.lookup_of_look hlook)
        · rw [if_pos hentry] at hfails
          exact absurd nofun (hfails _ w'' rfl)
      · exact absurd nofun (hfails _ w'' (Session.bind_of_error hlook))

/-- How far the first build came: through all templates, or through those before one
that does not compile. -/
theorem FirstBuilt.built (h : FirstBuilt config src out w w₁) (lay : Layout config S O)
    (hsuffix : config.templateSuffix = ".html") (hnames : w.files.Straight)
    (hS : w.cwd.resolve src = S) (hO : w.outDirectory src out = O) :
    ∃ before after made : List Path,
      (before ++ after).Pairwise (fun t u => compare t u = .lt) ∧
      (∀ t, t ∈ before ++ after ↔ w.files.Listed S config.templateSuffix t) ∧
      BuiltAll config S O w.files before made w₁.files ∧
      ∀ t ∈ after.head?, ∀ bytes, w₁.files.at? t.parts = some (.file bytes) →
        ∃ f, config.moduleOf t bytes = .error f := by
  obtain ⟨hdirs, hdir⟩ := h.ready hS hO
  have hplain : PlainSuffix config.templateSuffix :=
    hsuffix ▸ ⟨by decide, by decide, by decide, by decide⟩
  obtain ⟨ts, hordered, hmem, htemplates, hbuild⟩ :=
    Session.build_cases hnames hdirs hdir lay.fault lay.allowed hplain
  rcases hbuild with ⟨made, w', hbuilt, -, hrun⟩ |
    ⟨before, t, after, made, w₂, f, w', rfl, -, hbuilt, hrun, hstop⟩
  · -- what is said of the whole build changes no file
    have hsame : w₁.files = w'.files := by
      rw [EStateM.run_bind, Session.run_note] at hrun
      cases hshown : w'.host.refuses (.built made.length O) with
      | none =>
        rw [hshown] at hrun
        rw [h.unique (.inl ⟨_, hrun⟩)]
      | some g =>
        rw [hshown] at hrun
        exact absurd nofun (h.not_foreign hrun)
    refine ⟨ts, [], made, ?_, ?_, hsame ▸ hbuilt, nofun⟩
    · rwa [List.append_nil]
    · rwa [List.append_nil]
  · rcases hstop with ⟨hmodule, hsame⟩ | ⟨target, -, hunplaced⟩
    · cases f with
      | template e =>
        obtain rfl := h.unique (.inr ⟨e, hrun⟩)
        refine ⟨before, t :: after, made, hordered, hmem, hsame ▸ hbuilt, ?_⟩
        intro u hu bytes hfile
        obtain rfl : t = u := by simpa using hu
        rw [hsame] at hfile
        rcases World.moduleOf_eq_error (htemplates t (by simp)).1 hmodule with
          hf | ⟨bytes', hat, hfault⟩
        · cases hf
        · rw [hfile] at hat
          cases hat
          exact ⟨_, Host.moduleOf_eq_template hfault⟩
      | _ => exact absurd nofun (h.not_foreign hrun)
    · exact absurd hunplaced.denies.foreign (h.not_foreign hrun)

/-- A template is up to date after the first build if none before it had an error. -/
theorem FirstBuilt.upToDate (h : FirstBuilt config src out w w₁) (lay : Layout config S O)
    (hsuffix : config.templateSuffix = ".html") (htree : w.files.Tree)
    (hnames : w.files.Straight) (hS : w.cwd.resolve src = S) (hO : w.outDirectory src out = O)
    (ht : IsTemplate config S O t) (hbelow : ∃ names, names ≠ [] ∧ t.parts = S.parts ++ names)
    (hearlier : ∀ u, w.files.Listed S config.templateSuffix u → compare u t = .lt →
      ∃ bytes source, w.files.at? u.parts = some (.file bytes) ∧
        config.moduleOf u bytes = .ok source) :
    UpToDate config S O w₁.files t := by
  obtain ⟨before, after, made, hordered, hmem, hbuilt, hstop⟩ := h.built lay hsuffix hnames hS hO
  intro bytes source target hfile hmodule hout
  obtain ⟨hfirst, hrest, -⟩ := List.pairwise_append.mp hordered
  have hdotted : config.templateSuffix = '.' :: ("html" : Text) := hsuffix
  -- what looks like a template is as it was before the build
  have hown : ∀ p : Path, config.templateSuffix <:+ p.name → ∀ target ∈ made,
      p.parts ≠ target.parts := by
    intro p hp target htarget
    obtain ⟨v, -, hv⟩ := hbuilt.exists_template htarget
    exact lay.place_ne_output_of_ends (by decide) hdotted hp hv
  have hends : config.templateSuffix <:+ t.name := by
    rw [← ht.suffix, ← Path.stem_append_suffix t]
    exact List.suffix_append _ _
  have hstart := (hbuilt.files htree (hown t hends) bytes).mp hfile
  have hlisted := (hmem t).mpr ⟨ht.root, hbelow, hends, bytes, hstart⟩
  rcases List.mem_append.mp hlisted with htb | hta
  · have hlater : before.Pairwise fun u v => u = t → ∀ other,
        v.output S O config.extension = .ok other → target.parts ≠ other.parts := by
      refine hfirst.imp_of_mem fun {u v} _ hv hlt hu other hother => ?_
      have hv := (hmem v).mp (List.mem_append_left _ hv)
      exact Path.output_ne_of_lt (by decide) (by decide) lay.allowed (ht.suffix.trans hdotted)
        ht.root hbelow (hdotted ▸ hv.ends) hv.root hv.below (hu ▸ hlt) hout hother
    obtain ⟨bytes', source', hfile', hmodule', hthere⟩ := hbuilt.written htree
      (fun u hu => hown u ((hmem u).mp (List.mem_append_left _ hu)).ends) htb hout hlater
    rw [hstart] at hfile'
    cases hfile'
    obtain rfl := Except.ok.inj (hmodule'.symm.trans hmodule)
    exact hthere
  · -- the build stopped at this template or at one before it
    cases after with
    | nil => cases hta
    | cons v rest =>
      rcases List.mem_cons.mp hta with rfl | hta
      · obtain ⟨f, hfault⟩ := hstop t rfl bytes hfile
        rw [hmodule] at hfault
        cases hfault
      · have hv := (hmem v).mp (List.mem_append_right _ List.mem_cons_self)
        obtain ⟨bytes', source', hfile', hmodule'⟩ :=
          hearlier v hv ((List.pairwise_cons.mp hrest).1 t hta)
        have hstill := (hbuilt.files htree (hown v hv.ends) bytes').mpr hfile'
        obtain ⟨f, hfault⟩ := hstop v rfl bytes' hstill
        rw [hmodule'] at hfault
        cases hfault

end FirstBuild

/-! ## Batches -/

/-- Batches of edits and reports that a session has worked through, one after the other. -/
inductive Rounds (config : Config) (src out cwd : Path) (host : Host) :
    Store → List Batch → Store → Prop
  | nil {s : Store} : Rounds config src out cwd host s [] s
  | cons {w w' : World} {batch : Batch} {batches : List Batch} {outs : List Path} {s' : Store}
    (hcwd : w.cwd = cwd) (hhost : w.host = host)
    (hrun : (Session.applyChanges config src out batch.changes).run (w.edited batch.edits) =
      .ok outs w')
    (rest : Rounds config src out cwd host w'.files batches s') :
    Rounds config src out cwd host w.files (batch :: batches) s'

/-- A path is reported in one of these batches. -/
def ReportedIn (cwd p : Path) (batches : List Batch) : Prop :=
  ∃ batch ∈ batches, ∃ c ∈ batch.changes, cwd.resolve? c.path = some p

/-- In each batch only files that look like templates are edited, as is possible when the
batch comes, and each of them is reported in that batch or in a later one. -/
structure Attended (config : Config) (src out cwd : Path) (host : Host) (s : Store)
    (batches : List Batch) : Prop where
  possible : ∀ before batch after s', batches = before ++ batch :: after →
    Rounds config src out cwd host s before s' →
    EditsPossible (IsSource config src) cwd s' batch.edits
  reported : ∀ before batch after, batches = before ++ batch :: after →
    ∀ e ∈ batch.edits, ReportedIn cwd (cwd.resolve e.path) (batch :: after)

section Batches

variable {w w' : World} {batch : Batch} {batches : List Batch} {outs : List Path} {cwd : Path}
  {host : Host} {s s' : Store}

theorem reportedIn_cons : ReportedIn cwd p (batch :: batches) ↔
    (∃ c ∈ batch.changes, cwd.resolve? c.path = some p) ∨ ReportedIn cwd p batches :=
  List.exists_mem_cons_iff _ _ _

theorem Attended.tail (h : Attended config src out w.cwd w.host w.files (batch :: batches))
    (hrun : (Session.applyChanges config src out batch.changes).run (w.edited batch.edits) =
      .ok outs w') :
    Attended config src out w.cwd w.host w'.files batches where
  possible before next after s' hsplit hrounds :=
    h.possible (batch :: before) next after s' (congrArg (batch :: ·) hsplit)
      (.cons rfl rfl hrun hrounds)
  reported before next after hsplit :=
    h.reported (batch :: before) next after (congrArg (batch :: ·) hsplit)

/-- What a batch does that comes to its end. -/
theorem exists_refreshed (lay : Layout config src out) (htree : w.files.Tree)
    (hpossible : EditsPossible (IsSource config src) w.cwd w.files batch.edits)
    (hrun : (Session.applyChanges config src out batch.changes).run (w.edited batch.edits) =
      .ok outs w') :
    ∃ mades, RefreshedAll config src out (w.edited batch.edits).files
      (w.reported config batch.changes) mades w'.files := by
  rcases @Session.applyChanges_cases _ _ _ (w.edited batch.edits) lay
      (hpossible.tree htree) batch.changes with
    ⟨mades, w₁, hok, hmades⟩ | ⟨f, w₁, herror, -⟩
  · rw [hrun] at hok
    cases hok
    exact ⟨mades, hmades⟩
  · rw [hrun] at herror
    cases herror

/-- A batch leaves the module of a template alone that it does not report. -/
theorem module_file_after (lay : Layout config src out)
    (hsuffix : config.templateSuffix = ".html") (htree : w.files.Tree)
    (hpossible : EditsPossible (IsSource config src) w.cwd w.files batch.edits)
    {mades : List (Option Path)}
    (hmades : RefreshedAll config src out (w.edited batch.edits).files
      (w.reported config batch.changes) mades w'.files)
    (ht : IsTemplate config src out t) (hmem : t ∉ w.reported config batch.changes)
    (hout : t.output src out config.extension = .ok target) (bytes : Text.Bytes) :
    w'.files.at? target.parts = some (.file bytes) ↔
      w.files.at? target.parts = some (.file bytes) := by
  have hdotted : config.templateSuffix = '.' :: ("html" : Text) := hsuffix
  have hsuffixes : ∀ p ∈ w.reported config batch.changes, p.suffix = config.templateSuffix :=
    fun p hp => (World.mem_reported.mp hp).2
  have hunedited : ∀ e ∈ batch.edits, target.parts ≠ (w.cwd.resolve e.path).parts := by
    intro e he hplace
    exact lay.place_ne_output_of_ends (by decide) hdotted (hpossible.path_kind he).ends hout
      hplace.symm
  rw [hmades.files (hpossible.tree htree) (RefreshedAll.apart hsuffixes ht.suffix hmem hout)]
  exact hpossible.files htree hunedited bytes

/-- A batch brings a template up to date that it reports, and keeps one so that it neither
edits nor reports. -/
theorem UpToDate.after (lay : Layout config src out)
    (hsuffix : config.templateSuffix = ".html") (htree : w.files.Tree)
    (hpossible : EditsPossible (IsSource config src) w.cwd w.files batch.edits)
    {mades : List (Option Path)}
    (hmades : RefreshedAll config src out (w.edited batch.edits).files
      (w.reported config batch.changes) mades w'.files)
    (ht : IsTemplate config src out t)
    (h : t ∈ w.reported config batch.changes ∨ UpToDate config src out w.files t ∧
      ∀ e ∈ batch.edits, w.cwd.resolve e.path ≠ t) :
    UpToDate config src out w'.files t := by
  have htree' : (w.edited batch.edits).files.Tree := hpossible.tree htree
  intro bytes source target hfile hmodule hout
  rw [hmades.template_file lay htree' ht.suffix] at hfile
  by_cases hmem : t ∈ w.reported config batch.changes
  · exact hmades.written lay htree' World.reported_nodup
      (fun p hp => (World.mem_reported.mp hp).2) hmem hout hfile hmodule
  · obtain ⟨hbefore, hunedited⟩ := h.resolve_left hmem
    have htemplate : ∀ e ∈ batch.edits, t.parts ≠ (w.cwd.resolve e.path).parts := by
      intro e he hplace
      have hroot := (hpossible.path_kind he).root.trans ht.root.symm
      exact hunedited e he (Path.eq_of_parts hroot hplace.symm)
    rw [module_file_after lay hsuffix htree hpossible hmades ht hmem hout]
    exact hbefore bytes source target ((hpossible.files htree htemplate bytes).mp hfile) hmodule
      hout

/-- In the end a template is up to date that was so at the start or has been reported. -/
theorem Rounds.upToDate (hrounds : Rounds config src out cwd host s batches s')
    (lay : Layout config src out) (hsuffix : config.templateSuffix = ".html") (htree : s.Tree)
    (hattended : Attended config src out cwd host s batches) (ht : IsTemplate config src out t)
    (h : UpToDate config src out s t ∨ ReportedIn cwd t batches) :
    UpToDate config src out s' t := by
  induction hrounds with
  | nil =>
    rcases h with h | ⟨batch, hmem, -⟩
    · exact h
    · cases hmem
  | @cons w w' batch batches outs s' hsame hhost hrun rest ih =>
    subst hsame hhost
    have hpossible := hattended.possible [] batch batches w.files rfl .nil
    obtain ⟨mades, hmades⟩ := exists_refreshed lay htree hpossible hrun
    refine ih (hmades.tree (hpossible.tree htree)) (hattended.tail hrun) ?_
    by_cases hmem : t ∈ w.reported config batch.changes
    · exact .inl (UpToDate.after lay hsuffix htree hpossible hmades ht (.inl hmem))
    · -- a report that is still to come is not in this batch
      have hlater : ReportedIn w.cwd t (batch :: batches) → ReportedIn w.cwd t batches := by
        intro hreported
        refine (reportedIn_cons.mp hreported).resolve_left fun hnow => hmem ?_
        exact World.mem_reported.mpr ⟨hnow, ht.suffix⟩
      rcases h with h | h
      · by_cases hedited : ∃ e ∈ batch.edits, w.cwd.resolve e.path = t
        · obtain ⟨e, he, rfl⟩ := hedited
          exact .inr (hlater (hattended.reported [] batch batches rfl e he))
        · refine .inl (UpToDate.after lay hsuffix htree hpossible hmades ht (.inr ⟨h, ?_⟩))
          exact fun e he hpath => hedited ⟨e, he, hpath⟩
      · exact .inr (hlater h)

/-- The module of a template that is never reported stays as it is. -/
theorem Rounds.module_file (hrounds : Rounds config src out cwd host s batches s')
    (lay : Layout config src out) (hsuffix : config.templateSuffix = ".html") (htree : s.Tree)
    (hattended : Attended config src out cwd host s batches) (ht : IsTemplate config src out t)
    (hnot : ¬ ReportedIn cwd t batches)
    (hout : t.output src out config.extension = .ok target) (bytes : Text.Bytes) :
    s'.at? target.parts = some (.file bytes) ↔ s.at? target.parts = some (.file bytes) := by
  induction hrounds with
  | nil => rfl
  | @cons w w' batch batches outs s' hsame hhost hrun rest ih =>
    subst hsame hhost
    have hpossible := hattended.possible [] batch batches w.files rfl .nil
    obtain ⟨mades, hmades⟩ := exists_refreshed lay htree hpossible hrun
    obtain ⟨hnow, hlater⟩ := not_or.mp (mt reportedIn_cons.mpr hnot)
    have hmem : t ∉ w.reported config batch.changes := fun hmem =>
      hnow (World.mem_reported.mp hmem).1
    rw [ih (hmades.tree (hpossible.tree htree)) (hattended.tail hrun) hlater]
    exact module_file_after lay hsuffix htree hpossible hmades ht hmem hout bytes

theorem Rounds.directories (hrounds : Rounds config src out cwd host s batches s')
    (lay : Layout config src out) (htree : s.Tree)
    (hattended : Attended config src out cwd host s batches) {place : Place}
    (hdir : s.at? place = some .directory) : s'.at? place = some .directory := by
  induction hrounds with
  | nil => exact hdir
  | @cons w w' batch batches outs s' hsame hhost hrun rest ih =>
    subst hsame hhost
    have hpossible := hattended.possible [] batch batches w.files rfl .nil
    obtain ⟨mades, hmades⟩ := exists_refreshed lay htree hpossible hrun
    exact ih (hmades.tree (hpossible.tree htree)) (hattended.tail hrun)
      (hmades.directories (hpossible.tree htree) (hpossible.directories htree hdir))

end Batches

/-! ## Sessions and commands -/

section Commands

variable {α : Type} {w w' : World} {batches : List Batch} {terminal : Command.Terminal}
  {feed : Command.Feed} {o : Command.Options} {src S O : Path} {out : Option Path}

theorem Session.rounds_of_forM (lay : Layout config S O) (htree : w.files.Tree)
    (hattended : Attended config S O w.cwd w.host w.files batches)
    (hrun : (batches.forM fun batch => do
      modify fun w : World => { w with files := batch.edits.foldl (·.edit w.cwd ·) w.files }
      let _ ← applyChanges config S O batch.changes).run w = .ok ⟨⟩ w') :
    Rounds config S O w.cwd w.host w.files batches w'.files := by
  induction batches generalizing w with
  | nil =>
    cases hrun
    exact .nil
  | cons batch batches ih =>
    obtain ⟨⟨⟩, w₁, hfirst, hrest⟩ := run_bind_eq_ok hrun
    obtain ⟨outs, w₂, hchanges, hsame⟩ := run_bind_eq_ok (s := w.edited batch.edits) hfirst
    cases hsame
    have hpossible := hattended.possible [] batch batches w.files rfl .nil
    obtain ⟨mades, hmades⟩ := exists_refreshed lay htree hpossible hchanges
    have hstays := (steady_applyChanges config S O batch.changes).of_ok hchanges
    have hcwd : w₁.cwd = w.cwd := hstays.cwd
    have hhost : w₁.host = w.host := hstays.host
    have hrest := @ih w₁ (hmades.tree (hpossible.tree htree))
      (by rw [hcwd, hhost]; exact hattended.tail hchanges) hrest
    rw [hcwd, hhost] at hrest
    exact .cons rfl rfl hchanges hrest

/-- The batches of a session that comes to its end are worked through. -/
theorem Session.rounds_of_watch (lay : Layout config S O) (htree : w.files.Tree)
    (hattended : Attended config S O w.cwd w.host w.files batches)
    (hdirs : Directories w src out S O)
    (hrun : (watch config src out batches).run w = .ok ⟨⟩ w') :
    Rounds config S O w.cwd w.host w.files batches w'.files := by
  unfold watch at hrun
  rw [bind_of_ok hdirs.run_src, bind_of_ok hdirs.run_out] at hrun
  obtain ⟨⟨⟩, w₁, hnote, hrun⟩ := run_bind_eq_ok hrun
  obtain ⟨-, rfl⟩ := note_eq_ok hnote
  exact @rounds_of_forM _ { w with notices := w.notices ++ [.watching S] } w' batches S O
    lay htree hattended hrun

namespace Command

theorem run_during (session : Session α) (w : World) :
    (during session).run w =
      match session.run w with
      | .ok a w => .ok a w
      | .error f w => .error (.ofFailure f) w := rfl

theorem during_eq_ok {session : Session α} {a : α}
    (h : (during session).run w = .ok a w') : session.run w = .ok a w' := by
  rw [run_during] at h
  split at h
  · next hrun =>
    cases h
    exact hrun
  · cases h

/-- A command fails for another reason than an error in a template. -/
def Fault.Foreign (f : Fault) : Prop := ∃ g : Failure, f = .failure g ∧ g.Foreign

theorem failsOnly_during {session : Session α} {way : Failure → Prop}
    (h : FailsOnly way session) :
    FailsOnly (fun f => ∃ g, f = Fault.ofFailure g ∧ way g) (during session) := by
  intro w f w' hrun
  rw [run_during] at hrun
  split at hrun
  · cases hrun
  · next g _ hfailed =>
    cases hrun
    exact ⟨g, rfl, h _ _ _ hfailed⟩

theorem foreign_during {session : Session α} (h : FailsOnly Failure.Foreign session) :
    FailsOnly Fault.Foreign (during session) := by
  intro w f w' hrun
  obtain ⟨g, rfl, hg⟩ := failsOnly_during h w f w' hrun
  cases g with
  | template e => exact absurd rfl (hg e)
  | _ => exact ⟨_, rfl, hg⟩

theorem foreign_print (terminal : Terminal) (line : Text) :
    FailsOnly Fault.Foreign (terminal.print line) := by
  unfold Terminal.print
  split
  · refine foreign_during fun w f w' hrun => ?_
    cases hrun
  · exact .throw ⟨_, rfl, nofun⟩

/-- No error in a template ends a watching command. -/
theorem foreign_watch (terminal : Terminal) (feed : Feed) (hconfig : o.config = .ok config)
    (src : Path) (out : Option Path) :
    FailsOnly Fault.Foreign (watch terminal feed o src out) := by
  unfold watch
  rw [hconfig]
  refine FailsOnly.bind (.pure config) fun config => FailsOnly.bind ?_ fun _ =>
    (foreign_during (Session.foreign_watch config src out feed.batches)).bind fun _ => ?_
  · have hbuild : FailsOnly (fun _ => True) (Session.build config src out) := fun _ _ _ _ => trivial
    refine FailsOnly.tryCatch fun w f w' hrun => ?_
    obtain ⟨g, rfl, -⟩ := (failsOnly_during hbuild).bind (fun _ => .pure _) w f w' hrun
    cases g with
    | template e => exact foreign_print terminal _
    | _ => exact .throw ⟨_, rfl, nofun⟩
  · split
    · exact foreign_print terminal _
    · exact .pure _

theorem print_eq_ok {line : Text} (h : (terminal.print line).run w = .ok ⟨⟩ w') :
    Session.Rests w w' := by
  unfold Terminal.print at h
  split at h
  · cases during_eq_ok h
    exact ⟨⟨rfl, rfl⟩, rfl⟩
  · cases h

/-- The two parts of a watching command that comes to its end: the first build, then
the batches. -/
theorem watch_eq_ok (hconfig : o.config = .ok config)
    (h : (watch terminal feed o src out).run w = .ok ⟨⟩ w') :
    ∃ w₁ w₂ w₃, FirstBuilt config src out w w₁ ∧ Session.Rests w₁ w₂ ∧
      (Session.watch config src out feed.batches).run w₂ = .ok ⟨⟩ w₃ ∧ w'.files = w₃.files := by
  unfold watch at h
  rw [hconfig] at h
  obtain ⟨_, w₀, hpure, h⟩ := run_bind_eq_ok h
  cases hpure
  obtain ⟨⟨⟩, w₂, hfirst, h⟩ := run_bind_eq_ok h
  obtain ⟨⟨⟩, w₃, hwatch, hend⟩ := run_bind_eq_ok h
  have hend : w'.files = w₃.files := by
    split at hend
    · exact (print_eq_ok hend).files
    · cases hend
      rfl
  suffices hbuilt : ∃ w₁, FirstBuilt config src out w w₁ ∧ Session.Rests w₁ w₂ by
    obtain ⟨w₁, hbuilt, hrests⟩ := hbuilt
    exact ⟨w₁, w₂, w₃, hbuilt, hrests, during_eq_ok hwatch, hend⟩
  rw [Session.run_tryCatch] at hfirst
  cases hbuild : (Session.build config src out).run w with
  | ok summary w₁ =>
    have hduring : (during (Session.build config src out)).run w = .ok summary w₁ := by
      rw [run_during, hbuild]
    rw [Session.bind_of_ok hduring] at hfirst
    cases hfirst
    exact ⟨w₂, .inl ⟨summary, hbuild⟩, Session.Lasting.refl w₂⟩
  | error f w₁ =>
    have hduring : (during (Session.build config src out)).run w = .error (.ofFailure f) w₁ := by
      rw [run_during, hbuild]
    rw [Session.bind_of_error hduring] at hfirst
    -- only an error of a template is printed and passed over
    cases f with
    | template e => exact ⟨w₁, .inr ⟨e, hbuild⟩, print_eq_ok hfirst⟩
    | _ => cases hfirst

/-- A watching command that comes to its end has gone through the first build and then
through all batches. -/
theorem exists_rounds (lay : Layout config S O) (hsuffix : config.templateSuffix = ".html")
    (htree : w.files.Tree) (hnames : w.files.Straight) (hconfig : o.config = .ok config)
    (hS : w.cwd.resolve src = S) (hO : w.outDirectory src out = O)
    (hattended : ∀ w₁, FirstBuilt config src out w w₁ →
      Attended config S O w.cwd w.host w₁.files feed.batches)
    (hrun : (watch terminal feed o src out).run w = .ok ⟨⟩ w') :
    ∃ w₁, FirstBuilt config src out w w₁ ∧ w₁.files.Tree ∧
      w₁.files.at? S.parts = some .directory ∧
      Rounds config S O w.cwd w.host w₁.files feed.batches w'.files := by
  obtain ⟨w₁, w₂, w₃, hbuilt, hrests, hwatch, hsame⟩ := watch_eq_ok hconfig hrun
  obtain ⟨before, after, made, -, -, hall, -⟩ := hbuilt.built lay hsuffix hnames hS hO
  obtain ⟨hdirs, hdir⟩ := hbuilt.ready hS hO
  obtain ⟨hcwd, hhost⟩ := Session.Lasting.trans hbuilt.stays hrests.toStays
  have htree₁ : w₁.files.Tree := hall.tree htree
  have hattended₂ : Attended config S O w₂.cwd w₂.host w₂.files feed.batches := by
    rw [hcwd, hhost, hrests.files]
    exact hattended w₁ hbuilt
  refine ⟨w₁, hbuilt, htree₁, ?_, ?_⟩
  · exact hall.directories htree (Store.locate_of_isDirectory lay.src_straight hdir).2
  · rw [← hcwd, ← hhost, ← hrests.files, hsame]
    exact Session.rounds_of_watch lay (hrests.files ▸ htree₁) hattended₂ (hdirs.of_cwd hcwd) hwatch

theorem Options.config_eq_ok (h : o.config = .ok config) :
    config.templateSuffix = ".html" ∧ config.fault? = none := by
  unfold Options.config at h
  split at h
  · cases h
  · extract_lets made at h
    split at h
    · cases h
    · next hfault =>
      obtain rfl : made = _ := Except.ok.inj h
      exact ⟨rfl, hfault⟩

end Command

/-- No error in a template ends a watching command. A template that compiles when the command
comes to its end has its module then exactly if it has been reported, or no template before it
had an error at the start, or its module was there all the same after the first build. -/
theorem watch_catches_up (terminal : Command.Terminal) (hconfig : o.config = .ok config)
    (htree : w.files.Tree) (hnames : w.files.Straight)
    (hallowed : Path.suffixAllowed config.extension)
    (hapart : ¬ (".html" : Text) <:+ config.extension)
    (hS : w.cwd.resolve src = S) (hO : w.outDirectory src out = O)
    (hattended : ∀ w₁, FirstBuilt config src out w w₁ →
      Attended config S O w.cwd w.host w₁.files feed.batches) :
    (∀ f w', (Command.watch terminal feed o src out).run w = .error f w' →
      ∃ g, f = .failure g ∧ ∀ e, g ≠ .template e) ∧
    ∀ w', (Command.watch terminal feed o src out).run w = .ok ⟨⟩ w' →
      ∀ t bytes source, IsTemplate config S O t → w'.files.at? t.parts = some (.file bytes) →
        config.moduleOf t bytes = .ok source →
        ∃ target, t.output S O config.extension = .ok target ∧
          (w'.files.at? target.parts = some (.file source.encode) ↔
            ReportedIn w.cwd t feed.batches ∨
            (∀ u, w.files.Listed S config.templateSuffix u → compare u t = .lt →
              ∃ bytes source, w.files.at? u.parts = some (.file bytes) ∧
                config.moduleOf u bytes = .ok source) ∨
            ∃ w₁, FirstBuilt config src out w w₁ ∧
              w₁.files.at? target.parts = some (.file source.encode)) := by
  refine ⟨Command.foreign_watch terminal feed hconfig src out w, ?_⟩
  intro w' hrun t bytes source ht hfile hmodule
  obtain ⟨hsuffix, hfault⟩ := Command.Options.config_eq_ok hconfig
  obtain ⟨w₀, -, -, hbuilt₀, -⟩ := Command.watch_eq_ok hconfig hrun
  obtain ⟨hdirs, -⟩ := hbuilt₀.ready hS hO
  have lay : Layout config S O :=
    ⟨hdirs.src_straight, hdirs.out_straight, hfault, hallowed, hsuffix ▸ hapart⟩
  obtain ⟨w₁, hbuilt, htree₁, hdir, hrounds⟩ :=
    Command.exists_rounds lay hsuffix htree hnames hconfig hS hO hattended hrun
  obtain ⟨target, hout⟩ := lay.exists_output ht
  refine ⟨target, hout, ?_⟩
  have hcaught : UpToDate config S O w₁.files t ∨ ReportedIn w.cwd t feed.batches →
      w'.files.at? target.parts = some (.file source.encode) := fun h =>
    hrounds.upToDate lay hsuffix htree₁ (hattended w₁ hbuilt) ht h bytes source target hfile
      hmodule hout
  by_cases hreported : ReportedIn w.cwd t feed.batches
  · exact iff_of_true (hcaught (.inr hreported)) (.inl hreported)
  · -- then the place of the module is as the first build left it
    have hkept := hrounds.module_file lay hsuffix htree₁ (hattended w₁ hbuilt) ht hreported
      hout source.encode
    constructor
    · exact fun hthere => .inr (.inr ⟨w₁, hbuilt, hkept.mp hthere⟩)
    · rintro (h | hearlier | ⟨w₁', hbuilt', hthere⟩)
      · exact absurd h hreported
      · -- the directory of templates is still one, and none of them
        have hbelow : ∃ names, names ≠ [] ∧ t.parts = S.parts ++ names := by
          obtain ⟨names, hparts, -⟩ := ht.below
          refine ⟨names, ?_, hparts⟩
          rintro rfl
          rw [hparts, List.append_nil,
            hrounds.directories lay htree₁ (hattended w₁ hbuilt) hdir] at hfile
          cases hfile
        exact hcaught (.inl (hbuilt.upToDate lay hsuffix htree hnames hS hO ht hbelow hearlier))
      · rw [hbuilt'.unique hbuilt] at hthere
        exact hkept.mpr hthere

end Commands

/-! ## A template that is left behind -/

section BrokenFirst

def brokenFirstEntries : List (Place × Entry) :=
  [(["s"], .directory), (["s", "a.html"], .file (Text.encode "<template><p></template>")),
    (["s", "z.html"], .file rule)]

/-- Two templates, the first with an error. -/
def brokenFirst : World :=
  { cwd := ⟨.slash, []⟩, files := Std.TreeMap.ofList brokenFirstEntries compare }

def correction : Batch := ⟨[.write ⟨.slash, ["s", "a.html"]⟩ rule], []⟩

def correctionReport : Batch := ⟨[], [⟨.modified, ⟨.slash, ["s", "a.html"]⟩⟩]⟩

/-- The error is corrected, which is reported with the next batch. -/
def correctionFeed : Command.Feed where
  batches := [correction, correctionReport]

/-- A terminal that shows a red line without its tags, and a text as it is. -/
def redTerminal : Command.Terminal where
  styled line := .ok ((line.drop "[red]".length).take (line.length - "[red][/]".length))
  echoed text := text

example : redTerminal.styled
    "[red]/s/a.html:1: Expected </p> (opened on line 1) but found </template>[/]" =
      .ok "/s/a.html:1: Expected </p> (opened on line 1) but found </template>" := by
  decide

/-- Only the first batch has an edit. -/
theorem correctionFeed_split {before after : List Batch} {batch : Batch}
    (h : correctionFeed.batches = before ++ batch :: after) :
    (before = [] ∧ batch = correction ∧ after = [correctionReport]) ∨ batch.edits = [] := by
  rcases before with _ | ⟨first, _ | ⟨second, before⟩⟩
  · cases h
    exact .inl ⟨rfl, rfl, rfl⟩
  · cases h
    exact .inr rfl
  · have hlen := congrArg List.length h
    simp only [correctionFeed, List.length_append, List.length_cons, List.length_nil] at hlen
    omega

/-- The world that an activity leaves. -/
def leaves {ε α : Type} : EStateM.Result ε World α → World
  | .ok _ w | .error _ w => w

/-- The first template can be edited. -/
abbrev Correctable (w : World) : Prop :=
  w.files.Tree ∧ w.files.at? ["s"] = some .directory ∧
    w.files.at? ["s", "a.html"] ≠ some .directory

theorem correction_attended {w₁ : World}
    (h : FirstBuilt {} ⟨.relative, ["s"]⟩ none brokenFirst w₁) :
    Attended {} ⟨.slash, ["s"]⟩ ⟨.slash, ["s"]⟩ brokenFirst.cwd brokenFirst.host w₁.files
      correctionFeed.batches where
  possible before batch after s' hsplit hrounds := by
    rcases correctionFeed_split hsplit with ⟨rfl, rfl, -⟩ | hnone
    · obtain rfl : w₁.files = s' := by
        generalize w₁.files = s at hrounds
        cases hrounds
        rfl
      have hcheck : Correctable
          (leaves ((Session.build {} ⟨.relative, ["s"]⟩ none).run brokenFirst)) := by
        decide +kernel
      obtain ⟨htree, hdir, hfile⟩ : Correctable w₁ := by
        rcases h with ⟨summary, hrun⟩ | ⟨e, hrun⟩
        · rwa [hrun] at hcheck
        · rwa [hrun] at hcheck
      have hsource : IsSource {} ⟨.slash, ["s"]⟩ ⟨.slash, ["s", "a.html"]⟩ :=
        ⟨by decide, rfl, ⟨["a.html"], by decide, rfl⟩, by decide⟩
      exact ⟨⟨hsource, hfile, fun q hq => htree.no_file_above hdir hq⟩, trivial⟩
    · rw [hnone]
      trivial
  reported before batch after hsplit e he := by
    rcases correctionFeed_split hsplit with ⟨rfl, rfl, rfl⟩ | hnone
    · obtain rfl := List.mem_singleton.mp he
      exact ⟨correctionReport, by simp, _, List.mem_singleton_self _, rfl⟩
    · rw [hnone] at he
      cases he

/-- What is seen of the files that the command leaves. -/
def correctionSeen (s : Store) : Bool :=
  s.at? ["s", "a.html"] = some (.file rule) ∧ s.at? ["s", "z.html"] = some (.file rule) ∧
    s.at? ["s", "z.jsx"] = none ∧ s.toList.all fun x =>
      match x.2 with
      | .directory => true
      | .file bytes =>
        !decide (IsTemplate {} ⟨.slash, ["s"]⟩ ⟨.slash, ["s"]⟩ ⟨.slash, x.1⟩) ||
          (Host.moduleOf {} {} ⟨.slash, x.1⟩ bytes).toOption.isSome

theorem correction_run :
    ∃ w', (Command.watch redTerminal correctionFeed {} ⟨.relative, ["s"]⟩ none).run brokenFirst =
      .ok ⟨⟩ w' ∧ correctionSeen w'.files = true := by
  have hok : ((Command.watch redTerminal correctionFeed {} ⟨.relative, ["s"]⟩ none).run'
      brokenFirst).isSome = true := by
    decide +kernel
  have hseen : correctionSeen (leaves ((Command.watch redTerminal correctionFeed {}
      ⟨.relative, ["s"]⟩ none).run brokenFirst)).files = true := by
    decide +kernel
  unfold EStateM.run' at hok
  cases hrun : (Command.watch redTerminal correctionFeed {} ⟨.relative, ["s"]⟩ none).run
      brokenFirst with
  | ok a w' =>
    rw [hrun] at hseen
    exact ⟨w', rfl, hseen⟩
  | error f w' =>
    rw [hrun] at hok
    cases hok

theorem correction_module : ∃ source,
    Config.moduleOf {} ⟨.slash, ["s", "a.html"]⟩ rule = .ok source ∧
      source.encode = ruleModule "A" := by
  have hcheck : (Config.moduleOf {} ⟨.slash, ["s", "a.html"]⟩ rule).toOption.map Text.encode =
      some (ruleModule "A") := by decide +kernel
  cases hmodule : Config.moduleOf {} ⟨.slash, ["s", "a.html"]⟩ rule with
  | ok source =>
    rw [hmodule] at hcheck
    exact ⟨source, rfl, Option.some.inj hcheck⟩
  | error f =>
    rw [hmodule] at hcheck
    cases hcheck

theorem correction_catches_up :
    ReportedIn brokenFirst.cwd ⟨.slash, ["s", "a.html"]⟩ correctionFeed.batches ∧
    ∃ w', (Command.watch redTerminal correctionFeed {} ⟨.relative, ["s"]⟩ none).run brokenFirst =
        .ok ⟨⟩ w' ∧
      w'.files.at? ["s", "a.html"] = some (.file rule) ∧
      w'.files.at? ["s", "a.jsx"] = some (.file (ruleModule "A")) := by
  obtain ⟨w', hrun, hseen⟩ := correction_run
  obtain ⟨hfile, -⟩ := of_decide_eq_true hseen
  obtain ⟨source, hmodule, hsource⟩ := correction_module
  have ht : IsTemplate {} ⟨.slash, ["s"]⟩ ⟨.slash, ["s"]⟩ ⟨.slash, ["s", "a.html"]⟩ := by decide
  have hreported : ReportedIn brokenFirst.cwd ⟨.slash, ["s", "a.html"]⟩ correctionFeed.batches :=
    ⟨correctionReport, by simp [correctionFeed], _, List.mem_singleton_self _, rfl⟩
  have hconfig : ({} : Command.Options).config = .ok {} := by decide +kernel
  obtain ⟨-, hend⟩ := watch_catches_up redTerminal hconfig (by decide +kernel)
    (by decide +kernel) (by decide) (by decide) rfl rfl fun _ => correction_attended
  obtain ⟨target, hout, hiff⟩ := hend w' hrun _ _ _ ht hfile hmodule
  have hthere := hiff.mpr (.inl hreported)
  rw [show target = ⟨.slash, ["s", "a.jsx"]⟩ from
    ok_injective (hout.symm.trans (by decide +kernel)), hsource] at hthere
  exact ⟨hreported, w', hrun, hfile, hthere⟩

/-- Although all templates compile in the end and each edit has been reported, one has no
module: the first build did not come to it. -/
theorem later_template_left_behind :
    (∀ w₁, FirstBuilt {} ⟨.relative, ["s"]⟩ none brokenFirst w₁ →
      Attended {} ⟨.slash, ["s"]⟩ ⟨.slash, ["s"]⟩ brokenFirst.cwd brokenFirst.host w₁.files
        correctionFeed.batches) ∧
    ∃ w', (Command.watch redTerminal correctionFeed {} ⟨.relative, ["s"]⟩ none).run brokenFirst =
        .ok ⟨⟩ w' ∧
      (∀ t bytes, IsTemplate {} ⟨.slash, ["s"]⟩ ⟨.slash, ["s"]⟩ t →
        w'.files.at? t.parts = some (.file bytes) →
        ∃ source, Config.moduleOf {} t bytes = .ok source) ∧
      w'.files.at? ["s", "z.html"] = some (.file rule) ∧
      w'.files.at? ["s", "z.jsx"] = none := by
  obtain ⟨w', hrun, hseen⟩ := correction_run
  obtain ⟨-, hthere, hmissing, hall⟩ := of_decide_eq_true hseen
  refine ⟨fun _ => correction_attended, w', hrun, fun t bytes ht hfile => ?_, hthere, hmissing⟩
  obtain ⟨source, hmodule⟩ := exists_module hall ht hfile
  exact ⟨source, Host.moduleOf_eq_ok hmodule⟩

end BrokenFirst

end JsxTemplate
