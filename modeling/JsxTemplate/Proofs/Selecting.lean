import JsxTemplate.Proofs.Building
import JsxTemplate.Proofs.Surviving

/-!
# Two ways to find templates

A build looks for files whose names fit a pattern, a star and the suffix of templates. A
session that applies changes takes the reported files that have this suffix. Where a file
is found in both ways it is compiled to the same place; but a name can end in the suffix
that has another suffix, or none, and such a file is built and never brought up to date.
-/

namespace JsxTemplate

/-! ## Suffixes of names -/

/-- A suffix that begins with its only dot and has more than that. -/
def OneDot (suffix : Text) : Prop := ∃ x, suffix = '.' :: x ∧ x ≠ [] ∧ '.' ∉ x

namespace Path

variable {p : Path} {suffix : Text}

theorem oneDot_suffix (h : p.suffix ≠ []) : OneDot p.suffix := by
  obtain ⟨x, hx, hdot⟩ := suffix_eq h
  refine ⟨x, hx, ?_, hdot⟩
  rintro rfl
  unfold Path.suffix splitName at hx
  split at hx
  · cases hx
  · cases hx

/-- A path has a suffix if its name ends in it and it is a dotted word, but not the name. -/
theorem suffix_eq_iff (hne : suffix ≠ []) :
    p.suffix = suffix ↔ OneDot suffix ∧ suffix <:+ p.name ∧ p.name ≠ suffix := by
  constructor
  · rintro rfl
    refine ⟨oneDot_suffix hne, ⟨p.stem, p.stem_append_suffix⟩, fun hall => ?_⟩
    have hstem : p.stem ++ p.suffix = [] ++ p.suffix := p.stem_append_suffix.trans hall
    exact stem_ne_nil (name_ne_nil_of_suffix hne) (List.append_cancel_right hstem)
  · rintro ⟨⟨x, rfl, hx, hdot⟩, ⟨before, hname⟩, hmore⟩
    refine suffix_of_name hdot hx ?_ hname.symm
    rintro rfl
    exact hmore hname.symm

end Path

/-! ## Files that a pattern picks -/

/-- A pattern that leads up only picks files by names that do. -/
theorem Pattern.up_of_picks {parts : List Part} {names : List Text} (hup : .up ∈ parts)
    (h : picks parts names = true) : ['.', '.'] ∈ names := by
  induction parts generalizing names with
  | nil => cases hup
  | cons part parts ih =>
    cases part with
    | name marks =>
      have hrest : .up ∈ parts := List.mem_of_ne_of_mem (by intro h; cases h) hup
      cases names with
      | nil => cases h
      | cons name names =>
        rw [picks, Bool.and_eq_true] at h
        exact List.mem_cons_of_mem _ (ih hrest h.2)
    | deep =>
      have hrest : .up ∈ parts := List.mem_of_ne_of_mem (by intro h; cases h) hup
      rw [picks, List.any_eq_true] at h
      obtain ⟨rest, hends, hpicks⟩ := h
      exact (mem_ends.mp hends).subset (ih hrest (Bool.and_eq_true_iff.mp hpicks).2)
    | up =>
      cases names with
      | nil => cases h
      | cons name names =>
        rw [picks, Bool.and_eq_true, decide_eq_true_iff] at h
        exact h.1 ▸ List.mem_cons_self

namespace Store

variable {s : Store} {cwd src : Path} {names : List Text}

/-- Names that do not lead up are found if they have the pattern and lead to a file. -/
theorem mem_routes {dir : Place} {taken parts : List Pattern.Part} (hne : names ≠ [])
    (hdots : ['.', '.'] ∉ names) :
    names ∈ s.routes dir taken parts ↔
      Pattern.picks (taken ++ parts) names = true ∧
        ∃ bytes, s.at? (dir ++ names) = some (.file bytes) := by
  induction parts generalizing taken with
  | nil =>
    rw [List.append_nil]
    exact mem_filesBelow hne
  | cons part parts ih =>
    by_cases hup : part = .up
    · subst hup
      refine iff_of_false (fun hmem => ?_) fun hpicks => ?_
      · obtain ⟨below, -, rest, -, rfl⟩ := mem_routes_up.mp hmem
        exact hdots (List.mem_append_right _ List.mem_cons_self)
      · exact hdots (Pattern.up_of_picks (List.mem_append_right _ List.mem_cons_self) hpicks.1)
    · rw [routes_of_ne_up hup, ih, List.append_assoc, List.singleton_append]

theorem mem_select {f : Path} {pattern : List Pattern.Part}
    (hloc : s.locate cwd src = .ok src.parts) (hdir : s.at? src.parts = some .directory)
    (hroot : f.root = src.root) (hparts : f.parts = src.parts ++ names) (hne : names ≠ [])
    (hdots : ['.', '.'] ∉ names) {bytes : Text.Bytes} (hfile : s.at? f.parts = some (.file bytes)) :
    f ∈ s.select cwd src pattern ↔ Pattern.picks pattern names = true := by
  have hf : f = { src with parts := src.parts ++ names } := Path.eq_of_parts hroot hparts
  unfold select
  simp only [hloc, hdir, ↓reduceIte]
  rw [List.mem_map]
  constructor
  · rintro ⟨below, hmem, hsame⟩
    have hbelow : below = names :=
      List.append_cancel_left (congrArg Path.parts (hsame.trans hf))
    exact ((mem_routes hne hdots).mp (hbelow ▸ hmem)).1
  · intro hpicks
    exact ⟨names, (mem_routes hne hdots).mpr ⟨hpicks, bytes, hparts ▸ hfile⟩, hf.symm⟩

end Store

/-- A file below a directory, with the names that lead to it from there. -/
structure World.FileBelow (w : World) (src : Path) (names : List Text) (f : Path) : Prop where
  root : f.root = src.root
  parts : f.parts = src.parts ++ names
  below : names ≠ []
  named : f.name ≠ []
  dots : ['.', '.'] ∉ names
  file : ∃ bytes, w.files.lookup w.cwd f = .ok (.file bytes)

/-- A build finds a file among the templates of a directory. -/
def World.Yields (w : World) (config : Config) (src f : Path) : Prop :=
  ∃ ts w', (Session.templates src config.templateSuffix).run w = .ok ts w' ∧ f ∈ ts

variable {config : Config} {src out f target : Path} {w w₁ w' : World} {names : List Text}

theorem World.FileBelow.straight (h : w.FileBelow src names f) (hsrc : src.Straight) :
    f.Straight := by
  refine ⟨h.root ▸ hsrc.1, fun hmem => ?_⟩
  rw [h.parts] at hmem
  rcases List.mem_append.mp hmem with hmem | hmem
  · exact hsrc.2 hmem
  · exact h.dots hmem

/-- There are directories all the way down to a file. -/
theorem World.FileBelow.directory (h : w.FileBelow src names f) (hsrc : src.Straight) :
    w.files.locate w.cwd src = .ok src.parts ∧ w.files.at? src.parts = some .directory := by
  obtain ⟨bytes, hfile⟩ := h.file
  obtain ⟨-, hshort, hdirs⟩ := Store.lookup_eq_ok (h.straight hsrc) hfile
  have habove : src.parts <+: f.parts.dropLast := by
    rw [h.parts]
    exact Store.prefix_dropLast_of_append h.below
  have hsame : ({ f with parts := f.parts.take src.parts.length } : Path) = src :=
    Path.eq_of_parts h.root (by rw [h.parts]; exact List.take_left)
  have hsrcShort : src.Short := hsame ▸ hshort.take (h.straight hsrc).1 _
  refine ⟨Store.locate_of_directories _ _ hsrc hsrcShort fun q hq => ?_, hdirs _ habove⟩
  exact hdirs q ((hq.trans (List.dropLast_prefix _)).trans habove)

namespace Session

/-- A build finds the files that its pattern picks. -/
theorem yields_iff (h : w.FileBelow src names f) (hsrc : src.Straight) :
    w.Yields config src f ↔
      ∃ pattern, Pattern.parse ('*' :: config.templateSuffix) = .ok pattern ∧
        Pattern.picks (.deep :: pattern) names = true := by
  obtain ⟨hloc, hdir⟩ := h.directory hsrc
  obtain ⟨bytes, hfile⟩ := h.file
  obtain ⟨hat, -, -⟩ := Store.lookup_eq_ok (h.straight hsrc) hfile
  have hentry : (look src).run w = .ok (some .directory) w := by
    rw [run_look, Store.lookup_eq_ok_iff.mpr ⟨_, hloc, hdir⟩]
  unfold World.Yields templates
  cases Pattern.parse ('*' :: config.templateSuffix) with
  | error g =>
    refine iff_of_false ?_ nofun
    rintro ⟨ts, w', hrun, -⟩
    cases hrun
  | ok pattern =>
    have hselect : f ∈ w.files.select w.cwd src (.deep :: pattern) ↔
        Pattern.picks (.deep :: pattern) names = true :=
      Store.mem_select hloc hdir h.root h.parts h.below h.dots hat
    constructor
    · rintro ⟨ts, w', hrun, hmem⟩
      obtain ⟨_, w₁, hpattern, hrun⟩ := run_bind_eq_ok hrun
      cases hpattern
      rw [bind_of_ok hentry] at hrun
      cases hrun
      exact ⟨pattern, rfl, hselect.mp hmem⟩
    · rintro ⟨_, hpattern, hpicks⟩
      cases hpattern
      refine ⟨_, w, ?_, hselect.mpr hpicks⟩
      show (look src >>= _).run w = _
      rw [bind_of_ok hentry]
      rfl

theorem yields_iff_of_plain (h : w.FileBelow src names f) (hsrc : src.Straight)
    (hplain : PlainSuffix config.templateSuffix) :
    w.Yields config src f ↔ config.templateSuffix <:+ f.name := by
  have hsame : f = ⟨src.root, src.parts ++ names⟩ := Path.eq_of_parts h.root h.parts
  have hname : f.name = names.getLast h.below :=
    (congrArg Path.name hsame).trans (Path.name_append _ _ _)
  rw [yields_iff h hsrc, Pattern.parse_plain hplain, hname]
  constructor
  · rintro ⟨_, hpattern, hpicks⟩
    cases hpattern
    obtain ⟨above, name, hsplit, hfits⟩ := Pattern.picks_deep.mp hpicks
    rw [List.getLast_congr _ (List.append_ne_nil_of_right_ne_nil _ (List.cons_ne_nil _ _)) hsplit,
      List.getLast_append_singleton]
    exact Pattern.fits_run_chars.mp hfits
  · intro hends
    exact ⟨_, rfl, Pattern.picks_deep.mpr ⟨names.dropLast, _,
      (List.dropLast_append_getLast h.below).symm, Pattern.fits_run_chars.mpr hends⟩⟩

/-! ## Files that are reported -/

/-- Compiles a template of a build, which fails with an error in it. -/
def compileInBuild (config : Config) (template target : Path) : Session Path :=
  attempt config template target target fun e => do
    note (.failed template)
    throw (.template e)

/-- Compiles a template that has changed, and passes over one with an error. -/
def compileInWatch (config : Config) (template target : Path) : Session (Option Path) :=
  attempt config template target (some target) fun e => do
    note (.rejected e)
    return none

theorem run_buildOne (hout : f.output src out config.extension = .ok target) (w : World) :
    (buildOne config src out f).run w = (compileInBuild config f target).run w :=
  buildOne_of_output hout w

theorem run_refresh {bytes : Text.Bytes} (hout : f.output src out config.extension = .ok target)
    (hfile : w.files.lookup w.cwd f = .ok (.file bytes)) :
    (refresh config src out f).run w = (compileInWatch config f target).run w :=
  refresh_of_file hout (look_of_read (Store.read_eq_ok_iff.mpr hfile))

end Session

/-- A session that applies changes comes to a file and compiles it to its place. -/
def Tries (config : Config) (src out : Path) (w : World) (changes : List Change) (f : Path) :
    Prop :=
  (∀ c ∈ changes, w.cwd.resolve? c.path ≠ none) ∧
    ∃ w₁ target bytes, Reached config src out w (w.reported config changes) f w₁ ∧
      f.output src out config.extension = .ok target ∧
      w₁.files.lookup w₁.cwd f = .ok (.file bytes)

/-- Changes report a file, and the templates that come before it leave it in its place. -/
structure Undisturbed (config : Config) (src out : Path) (w : World) (changes : List Change)
    (f : Path) : Prop where
  paths : ∀ c ∈ changes, w.cwd.resolve? c.path ≠ none
  reported : ∃ c ∈ changes, w.cwd.resolve? c.path = some f
  kept : ∀ before after, w.reported config changes = before ++ f :: after →
    ∃ mades w₁ bytes, (before.mapM (Session.refresh config src out)).run w = .ok mades w₁ ∧
      w₁.files.lookup w₁.cwd f = .ok (.file bytes)

variable {changes : List Change}

theorem Reached.mem {ps : List Path} (h : Reached config src out w ps f w₁) : f ∈ ps := by
  induction h with
  | here => exact List.mem_cons_self
  | later _ _ ih => exact List.mem_cons_of_mem _ ih

/-- A session comes to a path once it is through with the ones before it. -/
theorem reached_of_mapM {before after : List Path} {mades : List (Option Path)}
    (h : (before.mapM (Session.refresh config src out)).run w = .ok mades w₁) :
    Reached config src out w (before ++ f :: after) f w₁ := by
  induction before generalizing w mades with
  | nil =>
    cases h
    exact .here
  | cons p before ih =>
    rw [List.mapM_cons] at h
    obtain ⟨made, w₂, hfirst, h⟩ := run_bind_eq_ok h
    obtain ⟨mades, w₃, hrest, h⟩ := run_bind_eq_ok h
    cases h
    exact .later hfirst (ih hrest)

/-- A session compiles the reported files that have the suffix of templates. -/
theorem tries_iff (h : Undisturbed config src out w changes f)
    (hout : f.output src out config.extension = .ok target) :
    Tries config src out w changes f ↔ f.suffix = config.templateSuffix := by
  constructor
  · rintro ⟨-, w₁, -, -, hreached, -⟩
    exact (World.mem_reported.mp hreached.mem).2
  · intro hsuffix
    obtain ⟨before, after, hsplit⟩ :=
      List.append_of_mem (World.mem_reported.mpr ⟨h.reported, hsuffix⟩)
    obtain ⟨mades, w₁, bytes, hrun, hfile⟩ := h.kept before after hsplit
    exact ⟨h.paths, w₁, target, bytes, hsplit ▸ reached_of_mapM hrun, hout, hfile⟩

/-- A file that is reported alone is the only one that can be brought up to date. -/
theorem World.reported_of_alone (hne : changes ≠ [])
    (halone : ∀ c ∈ changes, w.cwd.resolve? c.path = some f) :
    w.reported config changes = if f.suffix = config.templateSuffix then [f] else [] := by
  have hmem : ∀ p, p ∈ w.reported config changes ↔ p = f ∧ f.suffix = config.templateSuffix := by
    intro p
    rw [World.mem_reported]
    constructor
    · rintro ⟨⟨c, hc, hreport⟩, hsuffix⟩
      obtain rfl := Option.some.inj (hreport.symm.trans (halone c hc))
      exact ⟨rfl, hsuffix⟩
    · rintro ⟨rfl, hsuffix⟩
      obtain ⟨c, hc⟩ := List.exists_mem_of_ne_nil _ hne
      exact ⟨⟨c, hc, halone c hc⟩, hsuffix⟩
  split
  · next hsuffix =>
    refine Path.eq_of_ordered World.reported_ordered (List.pairwise_singleton _ _) fun p => ?_
    rw [hmem, List.mem_singleton]
    exact and_iff_left hsuffix
  · next hsuffix =>
    exact List.eq_nil_iff_forall_not_mem.mpr fun p hp => hsuffix ((hmem p).mp hp).2

theorem paths_of_alone (halone : ∀ c ∈ changes, w.cwd.resolve? c.path = some f) :
    ∀ c ∈ changes, w.cwd.resolve? c.path ≠ none := fun c hc => by
  rw [halone c hc]
  exact Option.some_ne_none f

/-- Nothing comes before a file that is reported alone. -/
theorem undisturbed_of_alone {bytes : Text.Bytes} (hne : changes ≠ [])
    (halone : ∀ c ∈ changes, w.cwd.resolve? c.path = some f)
    (hfile : w.files.lookup w.cwd f = .ok (.file bytes)) :
    Undisturbed config src out w changes f := by
  obtain ⟨c, hc⟩ := List.exists_mem_of_ne_nil _ hne
  refine ⟨paths_of_alone halone, ⟨c, hc, halone c hc⟩, fun before after hsplit => ?_⟩
  have hsingle : before ++ f :: after = [f] := by
    rw [← hsplit, World.reported_of_alone hne halone, if_pos]
    have hmem : f ∈ w.reported config changes := hsplit ▸ by simp
    exact (World.mem_reported.mp hmem).2
  rcases List.append_eq_singleton_iff.mp hsingle with ⟨rfl, -⟩ | ⟨-, hnil⟩
  · exact ⟨[], w, bytes, rfl, hfile⟩
  · cases hnil

/-- What applying changes comes to if they report one file: it is compiled, or nothing is
done. -/
theorem run_applyChanges_of_alone {bytes : Text.Bytes} (hne : changes ≠ [])
    (halone : ∀ c ∈ changes, w.cwd.resolve? c.path = some f)
    (hfile : w.files.lookup w.cwd f = .ok (.file bytes))
    (hout : f.output src out config.extension = .ok target) :
    (Session.applyChanges config src out changes).run w =
      if f.suffix = config.templateSuffix then
        (Session.compileInWatch config f target >>= fun made => pure made.toList).run w
      else .ok [] w := by
  rw [Session.run_applyChanges_of_paths (paths_of_alone halone), World.reported_of_alone hne halone]
  split
  · rw [List.mapM_cons, EStateM.run_bind, EStateM.run_bind, EStateM.run_bind,
      Session.run_refresh hout hfile]
    cases (Session.compileInWatch config f target).run w with
    | error g w' => rfl
    | ok made w' => cases made <;> rfl
  · rfl

/-- A build finds a file if the pattern picks it, and a session that is told of it compiles
it if it has the suffix of templates. If the suffix is no pattern, the two agree on all
files but those whose names end in it and yet do not have it: because it has more than
one dot, or nothing behind its dot, or is the whole name. Either way the file is compiled
to the same place. -/
theorem selections_agree_iff (hfault : config.fault? = none)
    (hallowed : Path.suffixAllowed config.extension) (hsrc : src.Straight)
    (hfile : w.FileBelow src names f) :
    (w.Yields config src f ↔
      ∃ pattern, Pattern.parse ('*' :: config.templateSuffix) = .ok pattern ∧
        Pattern.picks (.deep :: pattern) names = true) ∧
    (∀ changes, Undisturbed config src out w changes f →
      (Tries config src out w changes f ↔
        OneDot config.templateSuffix ∧ config.templateSuffix <:+ f.name ∧
          f.name ≠ config.templateSuffix) ∧
      (PlainSuffix config.templateSuffix →
        ((w.Yields config src f ↔ Tries config src out w changes f) ↔
          (config.templateSuffix <:+ f.name →
            OneDot config.templateSuffix ∧ f.name ≠ config.templateSuffix)))) ∧
    ∃ target : Path,
      target = ⟨out.root, out.parts ++ names.dropLast ++ [f.stem ++ config.extension]⟩ ∧
      (∀ w₁, (Session.buildOne config src out f).run w₁ =
        (Session.compileInBuild config f target).run w₁) ∧
      (∀ w₁ bytes, w₁.files.lookup w₁.cwd f = .ok (.file bytes) →
        (Session.refresh config src out f).run w₁ =
          (Session.compileInWatch config f target).run w₁) ∧
      ∀ changes, changes ≠ [] → (∀ c ∈ changes, w.cwd.resolve? c.path = some f) →
        Undisturbed config src out w changes f ∧
        (Session.applyChanges config src out changes).run w =
          if f.suffix = config.templateSuffix then
            (Session.compileInWatch config f target >>= fun made => pure made.toList).run w
          else .ok [] w := by
  have hne : config.templateSuffix ≠ [] := by
    intro hnil
    have hdot := (Config.dots hfault).2
    rw [hnil] at hdot
    cases hdot
  have hout : f.output src out config.extension =
      .ok ⟨out.root, out.parts ++ names.dropLast ++ [f.stem ++ config.extension]⟩ :=
    Path.output_of_below hfile.root hfile.parts hfile.below hfile.named hallowed
  refine ⟨Session.yields_iff hfile hsrc, fun changes hreport => ?_, _, rfl,
    Session.run_buildOne hout, fun w₁ bytes => Session.run_refresh hout, ?_⟩
  · have htries := (tries_iff hreport hout).trans (Path.suffix_eq_iff hne)
    refine ⟨htries, fun hplain => ?_⟩
    rw [Session.yields_iff_of_plain hfile hsrc hplain, htries]
    constructor
    · intro hagree hends
      obtain ⟨hdot, -, hmore⟩ := hagree.mp hends
      exact ⟨hdot, hmore⟩
    · intro hagree
      exact ⟨fun hends => ⟨(hagree hends).1, hends, (hagree hends).2⟩, fun h => h.2.1⟩
  · intro changes hreports halone
    obtain ⟨bytes, hbytes⟩ := hfile.file
    exact ⟨undisturbed_of_alone hreports halone hbytes,
      run_applyChanges_of_alone hreports halone hbytes hout⟩

theorem eq_ok_of_toOption {ε α : Type} {x : Except ε α} {a : α} (h : x.toOption = some a) :
    x = .ok a := by
  cases x with
  | error f => cases h
  | ok b => exact congrArg Except.ok (Option.some.inj h)

/-! ## A file that both find -/

section Deep

def deepPath : Path := ⟨.slash, ["s", "d", "b.x.html"]⟩

def deepEntries : List (Place × Entry) :=
  [(["s"], .directory), (["s", "a.html"], .file rule), (["s", "d"], .directory),
    (["s", "d", "b.x.html"], .file rule)]

/-- Two templates, one of them further below and with another dot in its name. -/
def deepWorld : World :=
  { cwd := ⟨.slash, []⟩, files := Std.TreeMap.ofList deepEntries compare }

/-- Both are reported, the one further below twice and with two spellings. -/
def deepChanges : List Change :=
  [⟨.deleted, ⟨.doubleSlash, ["s", "d", "..", "d", "b.x.html"]⟩⟩,
    ⟨.modified, ⟨.slash, ["s", "a.html"]⟩⟩, ⟨.added, deepPath⟩]

/-- Whether a file has been left in its place. -/
def keepsFile (f : Path) : EStateM.Result Failure World (List (Option Path)) → Bool
  | .ok _ w => (w.files.lookup w.cwd f).toOption = some (.file rule)
  | .error _ _ => false

theorem deepWorld_undisturbed :
    Undisturbed {} ⟨.slash, ["s"]⟩ ⟨.slash, ["s"]⟩ deepWorld deepChanges deepPath := by
  have hreported : deepWorld.reported {} deepChanges =
      [⟨.slash, ["s", "a.html"]⟩, deepPath] := by decide +kernel
  have hkept : keepsFile deepPath (([⟨.slash, ["s", "a.html"]⟩].mapM
      (Session.refresh {} ⟨.slash, ["s"]⟩ ⟨.slash, ["s"]⟩)).run deepWorld) = true := by
    decide +kernel
  refine ⟨by decide, ⟨⟨.added, deepPath⟩, by decide, by decide⟩, fun before after hsplit => ?_⟩
  rw [hreported] at hsplit
  cases before with
  | nil => exact absurd (List.cons_eq_cons.mp hsplit).1 (by decide)
  | cons p before =>
    obtain ⟨rfl, hrest⟩ := List.cons_eq_cons.mp hsplit
    cases before with
    | nil =>
      cases hrun : ([⟨.slash, ["s", "a.html"]⟩].mapM
          (Session.refresh {} ⟨.slash, ["s"]⟩ ⟨.slash, ["s"]⟩)).run deepWorld with
      | error g w' =>
        rw [hrun] at hkept
        cases hkept
      | ok mades w' =>
        rw [hrun] at hkept
        exact ⟨mades, w', rule, rfl, eq_ok_of_toOption (of_decide_eq_true hkept)⟩
    | cons q before =>
      have hnil := (List.cons_eq_cons.mp hrest).2
      exact absurd hnil.symm (List.append_ne_nil_of_right_ne_nil _ (List.cons_ne_nil _ _))

theorem deepWorld_file : deepWorld.FileBelow ⟨.slash, ["s"]⟩ ["d", "b.x.html"] deepPath :=
  ⟨rfl, rfl, by decide, by decide, by decide, rule, eq_ok_of_toOption (by decide +kernel)⟩

theorem deepWorld_selected :
    Config.fault? {} = none ∧ Path.suffixAllowed ".jsx" = true ∧
    deepWorld.FileBelow ⟨.slash, ["s"]⟩ ["d", "b.x.html"] deepPath ∧
    Undisturbed {} ⟨.slash, ["s"]⟩ ⟨.slash, ["s"]⟩ deepWorld deepChanges deepPath ∧
    deepWorld.Yields {} ⟨.slash, ["s"]⟩ deepPath ∧
    Tries {} ⟨.slash, ["s"]⟩ ⟨.slash, ["s"]⟩ deepWorld deepChanges deepPath := by
  obtain ⟨-, hreported, -⟩ := @selections_agree_iff {} _ ⟨.slash, ["s"]⟩ _ _ _ (by decide)
    (by decide) (by decide) deepWorld_file
  obtain ⟨htries, hagree⟩ := hreported deepChanges deepWorld_undisturbed
  have hdot : OneDot (Config.templateSuffix {}) := ⟨"html", rfl, by decide, by decide⟩
  have htried := htries.mpr ⟨hdot, by decide, by decide⟩
  have hsame := (hagree ⟨by decide, by decide, by decide, by decide⟩).mpr fun _ =>
    ⟨hdot, by decide⟩
  exact ⟨by decide, by decide, deepWorld_file, deepWorld_undisturbed, hsame.mpr htried, htried⟩

end Deep

/-! ## Files that only a build finds -/

/-- A file whose name ends in the suffix without having it is found by a build, and no
report of it makes a session compile it. -/
theorem missed_of_suffix_ne (hfile : w.FileBelow src names f) (hsrc : src.Straight)
    (hplain : PlainSuffix config.templateSuffix) (hends : config.templateSuffix <:+ f.name)
    (hsuffix : f.suffix ≠ config.templateSuffix) :
    w.Yields config src f ∧ ∀ changes, ¬ Tries config src out w changes f := by
  refine ⟨(Session.yields_iff_of_plain hfile hsrc hplain).mpr hends, ?_⟩
  rintro changes ⟨-, w₁, -, -, hreached, -⟩
  exact hsuffix (World.mem_reported.mp hreached.mem).2

section OneFile

def oneFilePath (name : Text) : Path := ⟨.slash, ["s", name]⟩

def oneFileEntries (name : Text) : List (Place × Entry) :=
  [(["s"], .directory), (["s", name], .file rule)]

/-- One file with this name. -/
def oneFile (name : Text) : World :=
  { cwd := ⟨.slash, []⟩, files := Std.TreeMap.ofList (oneFileEntries name) compare }

theorem oneFile_below {name : Text} (hname : name ≠ [] ∧ ['.', '.'] ≠ name)
    (h : ((oneFile name).files.lookup (oneFile name).cwd (oneFilePath name)).toOption =
      some (.file rule)) :
    (oneFile name).FileBelow ⟨.slash, ["s"]⟩ [name] (oneFilePath name) :=
  ⟨rfl, rfl, List.cons_ne_nil _ _, hname.1, by simpa using hname.2, rule, eq_ok_of_toOption h⟩

/-- So it is for a name that is only the suffix, and for a suffix with two dots. -/
theorem names_missed_by_watch :
    (Config.fault? {} = none ∧ (oneFile ".html").Yields {} ⟨.slash, ["s"]⟩ (oneFilePath ".html") ∧
      (∀ changes, ¬ Tries {} ⟨.slash, ["s"]⟩ ⟨.slash, ["s"]⟩ (oneFile ".html") changes
        (oneFilePath ".html")) ∧
      (Session.applyChanges {} ⟨.slash, ["s"]⟩ ⟨.slash, ["s"]⟩
        [⟨.modified, oneFilePath ".html"⟩]).run' (oneFile ".html") = some []) ∧
    Config.fault? { templateSuffix := ".x.html" } = none ∧
      (oneFile "a.x.html").Yields { templateSuffix := ".x.html" } ⟨.slash, ["s"]⟩
        (oneFilePath "a.x.html") ∧
      (∀ changes, ¬ Tries { templateSuffix := ".x.html" } ⟨.slash, ["s"]⟩ ⟨.slash, ["s"]⟩
        (oneFile "a.x.html") changes (oneFilePath "a.x.html")) ∧
      (Session.applyChanges { templateSuffix := ".x.html" } ⟨.slash, ["s"]⟩ ⟨.slash, ["s"]⟩
        [⟨.modified, oneFilePath "a.x.html"⟩]).run' (oneFile "a.x.html") = some [] := by
  have hwhole : (oneFile ".html").FileBelow ⟨.slash, ["s"]⟩ [".html".toList]
      (oneFilePath ".html") := oneFile_below (by decide) (by decide +kernel)
  have hdots : (oneFile "a.x.html").FileBelow ⟨.slash, ["s"]⟩ ["a.x.html".toList]
      (oneFilePath "a.x.html") := oneFile_below (by decide) (by decide +kernel)
  obtain ⟨hyields, hnever⟩ := @missed_of_suffix_ne {} _ ⟨.slash, ["s"]⟩ _ _ _ hwhole (by decide)
    ⟨by decide, by decide, by decide, by decide⟩ (by decide) (by decide)
  obtain ⟨hyields', hnever'⟩ := @missed_of_suffix_ne { templateSuffix := ".x.html" } _
    ⟨.slash, ["s"]⟩ _ _ _ hdots (by decide) ⟨by decide, by decide, by decide, by decide⟩
    (by decide) (by decide)
  exact ⟨⟨by decide, hyields, hnever, by decide +kernel⟩, by decide, hyields', hnever',
    by decide +kernel⟩

end OneFile

end JsxTemplate
