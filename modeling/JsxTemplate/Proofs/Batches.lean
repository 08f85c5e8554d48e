import JsxTemplate.Proofs.Selecting

/-!
# Batches of changes

A batch of changes is no more than a set of paths. The templates among them are brought
up to date one after the other, each from what stands at its own path and at the place
of its module. No other file is touched, even if the session fails on the way; and as
long as the modules keep clear of each other and of the templates, each of them ends up
as if its template had been reported alone.
-/

namespace JsxTemplate

variable {config : Config} {src out p target : Path} {w w₁ w₂ w' : World}
  {changes changes' : List Change}

/-! ## The paths of a batch -/

/-- Changes that name the same paths report the same templates. -/
theorem World.reported_congr (h : ∀ r, (∃ c ∈ changes, w.cwd.resolve? c.path = r) ↔
      ∃ c ∈ changes', w.cwd.resolve? c.path = r) :
    w.reported config changes = w.reported config changes' := by
  refine Path.eq_of_ordered World.reported_ordered World.reported_ordered fun p => ?_
  rw [World.mem_reported, World.mem_reported, h (some p)]

/-- Two batches that name the same paths come to the same: the value or the failure, and the
world that is left. For both are the walk through one list, the templates among the paths in
order, unless there is a path that can be none: then both fail before anything is done. -/
theorem Session.applyChanges_of_same_paths (config : Config) (src out : Path)
    (h : ∀ r, (∃ c ∈ changes, w.cwd.resolve? c.path = r) ↔
      ∃ c ∈ changes', w.cwd.resolve? c.path = r) :
    (applyChanges config src out changes).run w = (applyChanges config src out changes').run w ∧
    ((∃ c ∈ changes, w.cwd.resolve? c.path = none) →
      (applyChanges config src out changes).run w = .error .zeroInPath w) ∧
    ((∀ c ∈ changes, w.cwd.resolve? c.path ≠ none) →
      ∃ ps : List Path, ps.Pairwise (fun p q => compare p q = .lt) ∧
        (∀ p, p ∈ ps ↔
          (∃ c ∈ changes, w.cwd.resolve? c.path = some p) ∧ p.suffix = config.templateSuffix) ∧
        (applyChanges config src out changes).run w =
          (ps.mapM (refresh config src out) >>= fun mades => pure (mades.filterMap id)).run w) := by
  rcases run_applyChanges config src out changes w with
    ⟨hpaths, hrun⟩ | ⟨hzero, hrun⟩
  · have hpaths' : ∀ c ∈ changes', w.cwd.resolve? c.path ≠ none := by
      intro c' hc' hnone
      obtain ⟨c, hc, hnone⟩ := (h none).mpr ⟨c', hc', hnone⟩
      exact hpaths c hc hnone
    refine ⟨?_, ?_, fun _ => ⟨w.reported config changes, World.reported_ordered,
      fun _ => World.mem_reported, hrun⟩⟩
    · rw [hrun, run_applyChanges_of_paths hpaths', World.reported_congr h]
    · rintro ⟨c, hc, hnone⟩
      exact absurd hnone (hpaths c hc)
  · obtain ⟨c', hc', hzero'⟩ := (h none).mp hzero
    refine ⟨?_, fun _ => hrun, fun hpaths => ?_⟩
    · rcases run_applyChanges config src out changes' w with ⟨hpaths', -⟩ | ⟨-, hrun'⟩
      · exact absurd hzero' (hpaths' c' hc')
      · rw [hrun, hrun']
    · obtain ⟨c, hc, hnone⟩ := hzero
      exact absurd hnone (hpaths c hc)

section Mixed

def mixedEntries : List (Place × Entry) :=
  [(["s"], .directory), (["s", "a.html"], .file draft), (["s", "a.jsx"], .file rule),
    (["s", "b.html"], .file rule), (["s", "c.jsx"], .file rule), (["s", "note"], .file rule)]

/-- A template with an error and an old module, one in order, and a module whose template
is gone. -/
def mixedWorld : World :=
  { cwd := ⟨.slash, ["s"]⟩, files := Std.TreeMap.ofList mixedEntries compare }

def mixedChanges : List Change :=
  [⟨.deleted, Path.parse "/s/c.html"⟩, ⟨.modified, Path.parse "/s/a.html"⟩,
    ⟨.deleted, Path.parse "/s/b.html"⟩, ⟨.added, Path.parse "/s/b.html"⟩]

/-- The same paths in other words. -/
def respelledChanges : List Change :=
  [⟨.modified, Path.parse "./b.html"⟩, ⟨.added, Path.parse "../s/a.html"⟩,
    ⟨.modified, Path.parse "/s/x/../c.html"⟩, ⟨.deleted, Path.parse "//s/a.html"⟩]

theorem respelled_batches_agree :
    (∀ r, (∃ c ∈ mixedChanges, mixedWorld.cwd.resolve? c.path = r) ↔
      ∃ c ∈ respelledChanges, mixedWorld.cwd.resolve? c.path = r) ∧
    (Session.applyChanges {} ⟨.slash, ["s"]⟩ ⟨.slash, ["s"]⟩ mixedChanges).run mixedWorld =
      (Session.applyChanges {} ⟨.slash, ["s"]⟩ ⟨.slash, ["s"]⟩ respelledChanges).run
        mixedWorld := by
  have hthere : ∀ r ∈ mixedChanges.map (fun c => mixedWorld.cwd.resolve? c.path),
      r ∈ respelledChanges.map (fun c => mixedWorld.cwd.resolve? c.path) := by decide +kernel
  have hback : ∀ r ∈ respelledChanges.map (fun c => mixedWorld.cwd.resolve? c.path),
      r ∈ mixedChanges.map (fun c => mixedWorld.cwd.resolve? c.path) := by decide +kernel
  have hsame : ∀ r, (∃ c ∈ mixedChanges, mixedWorld.cwd.resolve? c.path = r) ↔
      ∃ c ∈ respelledChanges, mixedWorld.cwd.resolve? c.path = r := by
    intro r
    rw [← List.mem_map, ← List.mem_map]
    exact ⟨hthere r, hback r⟩
  exact ⟨hsame, (Session.applyChanges_of_same_paths {} _ _ hsame).1⟩

end Mixed

/-! ## What a batch can touch -/

namespace Path

/-- Where names lead from a place, if all of them lead somewhere: a double dot goes back. -/
def follow (start names : List Text) : List Text :=
  names.foldl (fun kept part => if part = ['.', '.'] then kept.dropLast else kept ++ [part]) start

theorem follow_cons (start : List Text) (name : Text) (names : List Text) :
    follow start (name :: names) =
      follow (if name = ['.', '.'] then start.dropLast else start ++ [name]) names := rfl

theorem follow_of_no_dots {names : List Text} (h : ['.', '.'] ∉ names) (start : List Text) :
    follow start names = start ++ names := by
  induction names generalizing start with
  | nil => exact (List.append_nil start).symm
  | cons name names ih =>
    obtain ⟨hname, hnames⟩ := not_or.mp (mt List.mem_cons.mpr h)
    rw [follow_cons, if_neg (Ne.symm hname), ih hnames, List.append_assoc, List.singleton_append]

theorem normalize_append {dir : List Text} (h : ['.', '.'] ∉ dir) (names : List Text) :
    normalize (dir ++ names) = follow dir names := by
  have hdir : normalize dir = dir := follow_of_no_dots h []
  unfold normalize at hdir ⊢
  rw [List.foldl_append, hdir, follow]

end Path

namespace Store

variable {s s' : Store} {cwd : Path} {place : Place}

theorem follow_eq_ok : ∀ {names : List Text} {start : Place},
    s.follow start names = .ok place → place = Path.follow start names
  | [], start, h => (Except.ok.inj h).symm
  | name :: names, start, h => by
    rw [Store.follow] at h
    rw [Path.follow_cons]
    split at h
    · cases h
    · cases h
    · split at h
      · next hup =>
        rw [if_pos hup]
        exact follow_eq_ok h
      · next hup =>
        rw [if_neg hup]
        split at h
        · cases h
        · exact follow_eq_ok h

/-- A path that leads anywhere leads to the place that it is resolved to. -/
theorem place_of_locate (hcwd : ['.', '.'] ∉ cwd.parts) (h : s.locate cwd p = .ok place) :
    place = (cwd.resolve p).parts := by
  unfold locate at h
  unfold Path.resolve Path.join
  split at h
  · cases h
  · cases hroot : p.root with
    | relative =>
      rw [hroot] at h
      rw [follow_eq_ok h]
      exact (Path.normalize_append hcwd p.parts).symm
    | slash =>
      rw [hroot] at h
      exact follow_eq_ok h
    | doubleSlash =>
      rw [hroot] at h
      exact follow_eq_ok h

end Store

/-- From one world to another nothing has happened to a file at this place. -/
structure World.Spares (place : Place) (w w' : World) : Prop where
  cwd : w'.cwd = w.cwd
  file : ∀ bytes, w'.files.at? place = some (.file bytes) ↔ w.files.at? place = some (.file bytes)

namespace World.Spares

variable {place : Place}

theorem refl (place : Place) (w : World) : w.Spares place w := ⟨rfl, fun _ => Iff.rfl⟩

theorem trans (h : w.Spares place w₁) (h' : w₁.Spares place w') : w.Spares place w' :=
  ⟨h'.cwd.trans h.cwd, fun bytes => (h'.file bytes).trans (h.file bytes)⟩

end World.Spares

namespace Session

/-- A session that begins in this directory spares a file, whatever comes of it. -/
abbrev Sparing {α : Type} (cwd : Path) (place : Place) (x : Session α) : Prop :=
  Keeps (fun w w' => w.cwd = cwd → w.Spares place w') x

instance (cwd : Path) (place : Place) : Lasting fun w w' => w.cwd = cwd → w.Spares place w' where
  refl w _ := .refl place w
  trans h h' hcwd := (h hcwd).trans (h' ((h hcwd).cwd.trans hcwd))

variable {cwd : Path} {place : Place}

theorem Idle.sparing {α : Type} {x : Session α} (h : Idle x) : Sparing cwd place x := by
  intro w _
  refine ⟨(h w).cwd, fun bytes => ?_⟩
  rw [(h w).files]

theorem sparing_makeDirectories (p : Path) : Sparing cwd place (makeDirectories p) := by
  intro w _
  unfold after
  rw [run_makeDirectories]
  split_ifs
  · exact .refl place w
  · cases hmade : w.files.makeDirectories w.cwd p p.parts.length with
    | error f => exact .refl place w
    | ok made => exact ⟨rfl, (Store.makeDirectories_added hmade).1.file place⟩

variable (hcwd : ['.', '.'] ∉ cwd.parts) (hplace : place ≠ (cwd.resolve target).parts)

include hcwd hplace

theorem sparing_writeText (text : Text) : Sparing cwd place (writeText target text) := by
  rintro w rfl
  unfold after
  rw [run_writeText]
  split_ifs
  · exact .refl place w
  · cases hwrite : w.files.write w.cwd target text.encode with
    | error r => exact .refl place w
    | ok files =>
      obtain ⟨written, hlocate, hdir, rfl⟩ := Store.write_eq_ok_iff.mp hwrite
      have hne : place ≠ written := Store.place_of_locate hcwd hlocate ▸ hplace
      refine ⟨rfl, fun bytes => ?_⟩
      show Store.at? (w.files.insert written (.file text.encode)) place = _ ↔ _
      rw [Store.at?_insert (Store.place_ne_nil hdir), if_neg hne]

theorem sparing_unlink : Sparing cwd place (unlink target) := by
  rintro w rfl
  have hrun := run_unlink target w
  split at hrun
  · next files hunlink =>
    rw [after_of_ok hrun]
    unfold Store.unlink at hunlink
    split at hunlink
    · cases hunlink
    · next removed hlocate =>
      split at hunlink
      · cases hunlink
      · cases hunlink
      · next bytes hfile =>
        cases hunlink
        have hne : place ≠ removed := Store.place_of_locate hcwd hlocate ▸ hplace
        refine ⟨rfl, fun bytes => ?_⟩
        show Store.at? (w.files.erase removed) place = _ ↔ _
        rw [Store.at?_erase (Store.place_ne_nil_of_file hfile), if_neg hne]
  · rw [after_of_error hrun]
    exact .refl place w

/-- Compiling spares all files but the module, even if it fails after directories have been
made. -/
theorem sparing_compileFile (config : Config) (t : Path) :
    Sparing cwd place (compileFile config t (some target) none) := by
  refine (idle_parseFile t).sparing.bind fun template => Keeps.get.bind fun w =>
    (Keeps.ofExcept _).bind fun source => ?_
  exact (sparing_makeDirectories _).bind fun _ => (sparing_writeText hcwd hplace source).bind
    fun _ => (idle_note _).sparing.bind fun _ => Keeps.pure source

theorem sparing_discard : Sparing cwd place (discard target) := by
  refine (idle_look target).sparing.bind fun found => ?_
  split
  · exact (sparing_unlink hcwd hplace).bind fun _ => (idle_note _).sparing
  · exact Keeps.pure PUnit.unit

omit hplace

/-- Bringing a path up to date spares all files but its module, whatever comes of it. -/
theorem sparing_refresh (config : Config) (src out p : Path)
    (hplace : ∀ target, p.output src out config.extension = .ok target →
      place ≠ (cwd.resolve target).parts) : Sparing cwd place (refresh config src out p) := by
  unfold refresh
  cases hout : p.output src out config.extension with
  | error f => exact Keeps.pure none
  | ok target =>
    have hplace := hplace target hout
    refine (idle_look p).sparing.bind fun entry => ?_
    split
    · exact Keeps.attempt (sparing_compileFile hcwd hplace config p) fun _ =>
        (idle_note _).sparing.bind fun _ => Keeps.pure none
    · exact (sparing_discard hcwd hplace).bind fun _ => Keeps.pure none

end Session

/-! ## Each template on its own -/

/-- What counts for one template is in a store as it was in an earlier one: its file, its
module and the files on the way to that. Directories may have been added. -/
structure Store.Unaffected (p target : Path) (s s₁ : Store) : Prop where
  tree : s.Tree
  tree₁ : s₁.Tree
  directories : ∀ q, s.at? q = some .directory → s₁.at? q = some .directory
  template : ∀ bytes, s₁.at? p.parts = some (.file bytes) ↔ s.at? p.parts = some (.file bytes)
  output : s₁.at? target.parts = s.at? target.parts
  above : ∀ q, q <+: target.parts.dropLast →
    ∀ bytes, s₁.at? q = some (.file bytes) ↔ s.at? q = some (.file bytes)

namespace Store

variable {s s₁ s' : Store} {cwd cwd₁ : Path}

/-- A name that is too long is so still if there are more directories. -/
theorem follow_nameTooLong (hdirs : ∀ q, s.at? q = some .directory → s₁.at? q = some .directory) :
    ∀ {names : List Text} {start : Place}, s.follow start names = .error .nameTooLong →
      s₁.follow start names = .error .nameTooLong
  | [], start, h => by cases h
  | name :: names, start, h => by
    rw [Store.follow] at h ⊢
    split at h
    · cases h
    · cases h
    · next hstart =>
      rw [hdirs start hstart]
      simp only
      split at h
      · next hup =>
        rw [if_pos hup]
        exact follow_nameTooLong hdirs h
      · next hup =>
        rw [if_neg hup]
        split at h
        · next hlong => rw [if_pos hlong]
        · next hlong =>
          rw [if_neg hlong]
          exact follow_nameTooLong hdirs h

theorem locate_nameTooLong (hp : p.Straight)
    (hdirs : ∀ q, s.at? q = some .directory → s₁.at? q = some .directory)
    (h : s.locate cwd p = .error .nameTooLong) : s₁.locate cwd₁ p = .error .nameTooLong := by
  rw [locate_straight hp] at h ⊢
  split
  · rfl
  · next hlen =>
    rw [if_neg hlen] at h
    exact follow_nameTooLong hdirs h

theorem Unaffected.room (h : Unaffected p target s s₁) (hroom : Room s₁ target) :
    Room s target where
  straight := hroom.straight
  short := hroom.short
  no_zero := hroom.no_zero
  free q hq bytes hfile := hroom.free q hq bytes ((h.above q hq bytes).mpr hfile)
  no_directory := h.output ▸ hroom.no_directory

/-- A file that can be removed from one store can be removed from another. -/
theorem exists_unlink (cwd : Path) (htree : s.Tree) (htarget : target.Straight)
    (hsame : s₁.at? target.parts = s.at? target.parts) (h : s₁.unlink cwd₁ target = .ok s') :
    ∃ s₂, s.unlink cwd target = .ok s₂ := by
  unfold unlink at h
  split at h
  · cases h
  · next place hlocate =>
    obtain ⟨rfl, hshort, -⟩ := locate_eq_ok htarget hlocate
    split at h
    · cases h
    · cases h
    · next bytes hfile =>
      rw [hsame] at hfile
      have hway := @Tree.way s htree target.parts (by rw [hfile]; exact nofun)
      have hlocate := locate_of_directories s cwd htarget hshort hway
      exact ⟨s.erase target.parts, by simp only [unlink, hlocate, hfile]⟩

end Store

namespace Session

theorem locate_of_refused {f : Failure} (h : (look p).run w = .error f w') :
    w.files.locate w.cwd p = .error .nameTooLong := by
  rw [run_look] at h
  split at h
  · cases h
  · next hlook =>
    unfold Store.lookup at hlook
    split at hlook
    · next hlocate =>
      cases hlook
      exact hlocate
    · split at hlook <;> cases hlook
  · cases h

/-- A path that can be looked at could be looked at when there were fewer directories. -/
theorem look_of_fewer (htree : w.files.Tree) (hp : p.Straight)
    (hdirs : ∀ q, w.files.at? q = some .directory → w₁.files.at? q = some .directory)
    {entry : Option Entry} (h : (look p).run w₁ = .ok entry w') :
    (look p).run w = .ok (w.files.at? p.parts) w := by
  rcases look_cases htree hp with hok | ⟨f, herror⟩
  · exact hok
  · have hlong : w₁.files.locate w₁.cwd p = .error .nameTooLong :=
      Store.locate_nameTooLong hp hdirs (locate_of_refused herror)
    rw [run_look] at h
    simp only [Store.lookup, hlong] at h
    cases h

theorem emit_unaffected {t : Path} {source written : Text} (htarget : target.Straight)
    (hhost : w₁.host = w.host) (h : Store.Unaffected p target w.files w₁.files)
    (hrun : (emit t target source).run w₁ = .ok written w₂) :
    ∃ w', (emit t target source).run w = .ok source w' ∧
      w'.files.at? target.parts = w₂.files.at? target.parts := by
  obtain ⟨hshown, -, hlaid⟩ := emit_eq_ok hrun
  obtain ⟨s', hlaid'⟩ := (h.room (hlaid.room htarget)).exists_laid w.cwd source.encode
  obtain ⟨w', hok, rfl⟩ := exists_emit (hhost ▸ hshown) hlaid'
  exact ⟨w', hok, by rw [(hlaid'.placed htarget).here, (hlaid.placed htarget).here]⟩

/-- A template that can be compiled, or has an error, could be so before the others were
brought up to date, with the same module in the end. -/
theorem refresh_unaffected_of_file {bytes : Text.Bytes} {made : Option Path} (hp : p.Straight)
    (hout : p.output src out config.extension = .ok target) (htarget : target.Straight)
    (hhost : w₁.host = w.host) (h : Store.Unaffected p target w.files w₁.files)
    (hentry : (look p).run w = .ok (some (.file bytes)) w)
    (hentry₁ : (look p).run w₁ = .ok (some (.file bytes)) w₁)
    (hrun : (refresh config src out p).run w₁ = .ok made w₂) :
    ∃ w', (refresh config src out p).run w = .ok made w' ∧
      w'.files.at? target.parts = w₂.files.at? target.parts := by
  have hfile := (Store.lookup_eq_ok hp (lookup_of_look hentry)).1
  have hsame : w₁.moduleOf config p = w.moduleOf config p :=
    World.moduleOf_congr h.tree h.tree₁ hp hhost hfile ((h.template bytes).mpr hfile)
  obtain ⟨notices, hcompile⟩ := run_compileFile config p target w
  obtain ⟨notices₁, hcompile₁⟩ := run_compileFile config p target w₁
  rw [hsame] at hcompile₁
  cases hmodule : w.moduleOf config p with
  | error f =>
    rw [hmodule] at hcompile hcompile₁
    by_cases hf : ∃ e, f = .template e
    · obtain ⟨e, rfl⟩ := hf
      have hrejected := refresh_of_rejected hout hentry hcompile
      have hrejected₁ := refresh_of_rejected hout hentry₁ hcompile₁
      simp only [hhost] at hrejected₁
      simp only at hrejected
      cases hshown : w.host.refuses (.rejected e) with
      | some g =>
        rw [hshown] at hrejected₁
        cases hrejected₁.symm.trans hrun
      | none =>
        rw [hshown] at hrejected hrejected₁
        cases hrejected₁.symm.trans hrun
        exact ⟨_, hrejected, h.output.symm⟩
    · cases (refresh_of_error hout hentry₁ hcompile₁ (not_exists.mp hf)).symm.trans hrun
  | ok source =>
    rw [hmodule] at hcompile hcompile₁
    simp only at hcompile hcompile₁
    cases hemit : (emit p target source).run { w₁ with notices := w₁.notices ++ notices₁ } with
    | error f w₃ =>
      have hfailed := refresh_of_error hout hentry₁ (hcompile₁.trans hemit)
        (unplaced_of_emit hemit).denies.foreign
      cases hfailed.symm.trans hrun
    | ok written w₃ =>
      cases (refresh_of_ok hout hentry₁ (hcompile₁.trans hemit)).symm.trans hrun
      obtain ⟨w', hok, hat⟩ := @emit_unaffected p target
        { w with notices := w.notices ++ notices }
        { w₁ with notices := w₁.notices ++ notices₁ } _ _ _ _ htarget hhost h hemit
      exact ⟨w', refresh_of_ok hout hentry (hcompile.trans hok), hat⟩

/-- The module of a template that is gone could be removed before the others were brought
up to date. -/
theorem discard_unaffected (htarget : target.Straight) (hhost : w₁.host = w.host)
    (h : Store.Unaffected p target w.files w₁.files)
    (hrun : (discard target).run w₁ = .ok ⟨⟩ w₂) :
    ∃ w', (discard target).run w = .ok ⟨⟩ w' ∧
      w'.files.at? target.parts = w₂.files.at? target.parts := by
  rcases look_outcome target w₁ with ⟨found, hfound₁⟩ | ⟨f, hfound₁⟩
  · have hfound := look_of_fewer h.tree htarget h.directories hfound₁
    cases hfound₁.symm.trans (look_of_fewer h.tree₁ htarget (fun _ hq => hq) hfound₁)
    rw [← h.output] at hfound
    cases hat : w₁.files.at? target.parts with
    | none =>
      rw [hat] at hfound hfound₁
      cases (discard_of_none hfound₁).symm.trans hrun
      exact ⟨w, discard_of_none hfound, h.output.symm⟩
    | some entry =>
      rw [hat] at hfound hfound₁
      rw [discard_of_some hfound₁] at hrun
      obtain ⟨_, w₃, hremoved, hsaid⟩ := run_bind_eq_ok hrun
      obtain ⟨hshown, rfl⟩ := note_eq_ok hsaid
      rw [run_unlink] at hremoved
      cases hunlink₁ : w₁.files.unlink w₁.cwd target with
      | error r =>
        rw [hunlink₁] at hremoved
        cases hremoved
      | ok files₁ =>
        rw [hunlink₁] at hremoved
        cases hremoved
        obtain ⟨files, hunlink⟩ := Store.exists_unlink w.cwd h.tree htarget h.output hunlink₁
        have hdone : (unlink target).run w = .ok ⟨⟩ { w with files := files } := by
          rw [run_unlink, hunlink]
        have hshown' : w.host.refuses (.removed target) = none := hhost ▸ hshown
        have hnoted := @run_note_of_shown { w with files := files } _ hshown'
        refine ⟨_, (discard_of_some hfound).trans ((bind_of_ok hdone).trans hnoted), ?_⟩
        exact (Store.unlink_eq_ok htarget hunlink).here.trans
          (Store.unlink_eq_ok htarget hunlink₁).here.symm
  · unfold discard at hrun
    rw [bind_of_error hfound₁] at hrun
    cases hrun

/-- What is done for a template among others is done for it alone. -/
theorem refresh_unaffected {made : Option Path} (hp : p.Straight)
    (hout : p.output src out config.extension = .ok target) (htarget : target.Straight)
    (hhost : w₁.host = w.host) (h : Store.Unaffected p target w.files w₁.files)
    (hrun : (refresh config src out p).run w₁ = .ok made w₂) :
    ∃ w', (refresh config src out p).run w = .ok made w' ∧
      w'.files.at? target.parts = w₂.files.at? target.parts := by
  rcases look_outcome p w₁ with ⟨entry, hentry₁⟩ | ⟨f, hentry₁⟩
  · have hentry := look_of_fewer h.tree hp h.directories hentry₁
    cases hentry₁.symm.trans (look_of_fewer h.tree₁ hp (fun _ hq => hq) hentry₁)
    by_cases hfile : ∃ bytes, w.files.at? p.parts = some (.file bytes)
    · obtain ⟨bytes, hfile⟩ := hfile
      rw [hfile] at hentry
      rw [(h.template bytes).mpr hfile] at hentry₁
      exact refresh_unaffected_of_file hp hout htarget hhost h hentry hentry₁ hrun
    · have hgone : ∀ bytes, w.files.at? p.parts ≠ some (.file bytes) := not_exists.mp hfile
      have hgone₁ : ∀ bytes, w₁.files.at? p.parts ≠ some (.file bytes) := fun bytes hfile₁ =>
        hgone bytes ((h.template bytes).mp hfile₁)
      rw [refresh_of_gone hout hentry₁ hgone₁] at hrun
      obtain ⟨_, w₃, hdiscard, hdone⟩ := run_bind_eq_ok hrun
      cases hdone
      obtain ⟨w', hok, hat⟩ := discard_unaffected htarget hhost h hdiscard
      refine ⟨w', ?_, hat⟩
      rw [refresh_of_gone hout hentry hgone, bind_of_ok hok]
      rfl
  · rw [refresh_of_refused hout hentry₁] at hrun
    cases hrun

/-! ## All templates of a batch -/

theorem refresh_eq_ok {made : Option Path} (hp : p.Straight)
    (hstraight : ∀ target, p.output src out config.extension = .ok target → target.Straight)
    (htree : w.files.Tree) (hrun : (refresh config src out p).run w = .ok made w') :
    Refreshed config src out w.files p made w'.files := by
  rcases refresh_cases hp hstraight htree with ⟨made, w'', hok, -, hmade⟩ | ⟨f, w'', herror, -⟩
  · cases hok.symm.trans hrun
    exact hmade
  · cases herror.symm.trans hrun

theorem mapM_refresh_eq_ok {ps : List Path} {mades : List (Option Path)}
    (hps : ∀ p ∈ ps, p.Straight ∧
      ∀ target, p.output src out config.extension = .ok target → target.Straight)
    (htree : w.files.Tree) (hrun : (ps.mapM (refresh config src out)).run w = .ok mades w') :
    RefreshedAll config src out w.files ps mades w'.files := by
  induction ps generalizing w mades with
  | nil =>
    cases hrun
    exact .nil
  | cons p ps ih =>
    obtain ⟨⟨hp, hstraight⟩, hps⟩ := List.forall_mem_cons.mp hps
    rw [List.mapM_cons] at hrun
    obtain ⟨made, w₁, hfirst, hrun⟩ := run_bind_eq_ok hrun
    obtain ⟨mades, w₂, hrest, hrun⟩ := run_bind_eq_ok hrun
    cases hrun
    have hmade := refresh_eq_ok hp hstraight htree hfirst
    exact .cons hmade (ih hps (hmade.tree htree) hrest)

/-- A session that is through with a list of paths has come to each of them. -/
theorem mapM_refresh_split {before later : List Path} {mades : List (Option Path)}
    (hrun : ((before ++ p :: later).mapM (refresh config src out)).run w = .ok mades w') :
    ∃ mades₁ w₁ made w₂ mades₂, (before.mapM (refresh config src out)).run w = .ok mades₁ w₁ ∧
      (refresh config src out p).run w₁ = .ok made w₂ ∧
      (later.mapM (refresh config src out)).run w₂ = .ok mades₂ w' := by
  rw [List.mapM_append] at hrun
  obtain ⟨mades₁, w₁, hbefore, hrun⟩ := run_bind_eq_ok hrun
  obtain ⟨rest, w₃, hrest, hrun⟩ := run_bind_eq_ok hrun
  cases hrun
  rw [List.mapM_cons] at hrest
  obtain ⟨made, w₂, hp, hrest⟩ := run_bind_eq_ok hrest
  obtain ⟨mades₂, w₄, hlater, hrest⟩ := run_bind_eq_ok hrest
  cases hrest
  exact ⟨mades₁, w₁, made, w₂, mades₂, hbefore, hp, hlater⟩

end Session

/-- The modules of other paths keep clear of a template and of its module. -/
def Clear (config : Config) (src out p target : Path) (others : List Path) : Prop :=
  ∀ q ∈ others, ∀ other, q.output src out config.extension = .ok other →
    other.parts ≠ p.parts ∧ ¬ target.parts <+: other.parts ∧ ¬ other.parts <+: target.parts

theorem RefreshedAll.unaffected {s s' : Store} {ps : List Path} {mades : List (Option Path)}
    (h : RefreshedAll config src out s ps mades s') (htree : s.Tree)
    (hclear : Clear config src out p target ps) : s.Unaffected p target s' where
  tree := htree
  tree₁ := h.tree htree
  directories _ hq := h.directories htree hq
  template := h.files htree fun q hq other hother => (hclear q hq other hother).1.symm
  output := h.elsewhere htree fun q hq other hother => (hclear q hq other hother).2.1
  above _ hplace := h.files htree fun q hq other hother heq =>
    (hclear q hq other hother).2.2 (heq ▸ hplace.trans (List.dropLast_prefix _))

/-- A template that changes report, and the path of its module. -/
structure World.Reports (w : World) (config : Config) (src out : Path) (changes : List Change)
    (p target : Path) : Prop where
  named : ∃ c ∈ changes, w.cwd.resolve? c.path = some p
  suffix : p.suffix = config.templateSuffix
  output : p.output src out config.extension = .ok target

/-- Modules of reported templates are no reported templates, and none of them stands on the
way to another. -/
structure World.Separate (w : World) (config : Config) (src out : Path) (changes : List Change) :
    Prop where
  templates : ∀ p target q other, w.Reports config src out changes p target →
    w.Reports config src out changes q other → target.parts ≠ q.parts
  modules : ∀ p target q other, w.Reports config src out changes p target →
    w.Reports config src out changes q other → target.parts <+: other.parts →
    target.parts = other.parts

namespace World

theorem reports_iff : w.Reports config src out changes p target ↔
    p ∈ w.reported config changes ∧ p.output src out config.extension = .ok target := by
  rw [mem_reported]
  constructor
  · exact fun h => ⟨⟨h.named, h.suffix⟩, h.output⟩
  · rintro ⟨⟨hnamed, hsuffix⟩, hout⟩
    exact ⟨hnamed, hsuffix, hout⟩

theorem separate_iff : w.Separate config src out changes ↔
    ∀ p ∈ w.reported config changes, ∀ q ∈ w.reported config changes,
      ∀ target ∈ (p.output src out config.extension).toOption,
      ∀ other ∈ (q.output src out config.extension).toOption,
        target.parts ≠ q.parts ∧ (target.parts <+: other.parts → target.parts = other.parts) := by
  constructor
  · intro h p hp q hq target htarget other hother
    have hp := reports_iff.mpr ⟨hp, eq_ok_of_toOption htarget⟩
    have hq := reports_iff.mpr ⟨hq, eq_ok_of_toOption hother⟩
    exact ⟨h.templates p target q other hp hq, h.modules p target q other hp hq⟩
  · intro h
    have hboth : ∀ p target q other, w.Reports config src out changes p target →
        w.Reports config src out changes q other → target.parts ≠ q.parts ∧
          (target.parts <+: other.parts → target.parts = other.parts) := by
      intro p target q other hp hq
      obtain ⟨hp, hout⟩ := reports_iff.mp hp
      obtain ⟨hq, hother⟩ := reports_iff.mp hq
      exact h p hp q hq target (by rw [hout]; rfl) other (by rw [hother]; rfl)
    exact ⟨fun p target q other hp hq => (hboth p target q other hp hq).1,
      fun p target q other hp hq => (hboth p target q other hp hq).2⟩

instance (w : World) (config : Config) (src out : Path) (changes : List Change) :
    Decidable (w.Separate config src out changes) :=
  decidable_of_iff _ separate_iff.symm

theorem Reports.straight (h : w.Reports config src out changes p target) : p.Straight :=
  Session.straight_of_mem_reported (reports_iff.mp h).1

/-- Templates that are reported with another keep clear of it. -/
theorem Separate.clear (h : w.Separate config src out changes)
    (hp : w.Reports config src out changes p target) {others : List Path}
    (hothers : others ⊆ w.reported config changes) (hnot : p ∉ others) :
    Clear config src out p target others := by
  intro q hq other hother
  have hq' := reports_iff.mpr ⟨hothers hq, hother⟩
  have hne : target.parts ≠ other.parts := fun hplace =>
    hnot (Path.output_inj hp.output hother (hp.suffix.trans hq'.suffix.symm) hplace ▸ hq)
  refine ⟨h.templates q other p target hq' hp, fun hpre => ?_, fun hpre => ?_⟩
  · exact hne (h.modules p target q other hp hq' hpre)
  · exact hne (h.modules q other p target hq' hp hpre).symm

end World

namespace Session

theorem applyChanges_spares {place : Place} (hcwd : ['.', '.'] ∉ w.cwd.parts)
    (hplace : ∀ p target, w.Reports config src out changes p target →
      place ≠ (w.cwd.resolve target).parts) :
    w.Spares place (after (applyChanges config src out changes) w) := by
  rcases run_applyChanges config src out changes w with ⟨-, hrun⟩ | ⟨-, hrun⟩
  · have hall : Sparing w.cwd place
        ((w.reported config changes).mapM (refresh config src out)) :=
      Keeps.mapM fun p hp => sparing_refresh hcwd config src out p fun target hout =>
        hplace p target (World.reports_iff.mpr ⟨hp, hout⟩)
    have hdone := hall w rfl
    rw [← after_bind_pure _ fun mades => mades.filterMap id] at hdone
    unfold after at hdone ⊢
    rw [hrun]
    exact hdone
  · rw [after_of_error hrun]
    exact .refl place w

/-- A session that is through with a batch has come to each template in it before anything
was done to what counts for it, and has left it alone afterwards. -/
theorem exists_refresh_of_applyChanges {outs : List Path} (hfault : config.fault? = none)
    (hout : out.Straight) (htree : w.files.Tree)
    (hseparate : w.Separate config src out changes)
    (hp : w.Reports config src out changes p target)
    (hrun : (applyChanges config src out changes).run w = .ok outs w') :
    ∃ made w₁ w₂, w₁.host = w.host ∧ w.files.Unaffected p target w₁.files ∧
      (refresh config src out p).run w₁ = .ok made w₂ ∧
      Refreshed config src out w₁.files p made w₂.files ∧
      w'.files.at? target.parts = w₂.files.at? target.parts := by
  rcases run_applyChanges config src out changes w with ⟨-, hwalk⟩ | ⟨-, hfailed⟩
  swap
  · cases hfailed.symm.trans hrun
  rw [hwalk] at hrun
  obtain ⟨mades, w'', hmades, hrun⟩ := run_bind_eq_ok hrun
  cases hrun
  have hstraight : ∀ q ∈ w.reported config changes, q.Straight ∧
      ∀ other, q.output src out config.extension = .ok other → other.Straight := by
    intro q hq
    have hq := straight_of_mem_reported hq
    exact ⟨hq, fun other => Path.output_straight hout hq.2 (Config.dots hfault).1⟩
  obtain ⟨before, later, hsplit⟩ := List.append_of_mem (World.reports_iff.mp hp).1
  have hbefore : before ⊆ w.reported config changes := hsplit ▸ List.subset_append_left _ _
  have hlater : later ⊆ w.reported config changes := fun q hq => hsplit ▸ by simp [hq]
  have hnodup : (before ++ p :: later).Nodup := hsplit ▸ World.reported_nodup
  obtain ⟨-, hrest, hapart⟩ := List.nodup_append.mp hnodup
  have hnotBefore : p ∉ before := fun hmem => hapart p hmem p List.mem_cons_self rfl
  have hnotLater : p ∉ later := (List.nodup_cons.mp hrest).1
  rw [hsplit] at hmades
  obtain ⟨mades₁, w₁, made, w₂, mades₂, hfirst, hrefresh, hlast⟩ := mapM_refresh_split hmades
  have hmades₁ := mapM_refresh_eq_ok (fun q hq => hstraight q (hbefore hq)) htree hfirst
  have hunaffected := hmades₁.unaffected htree (hseparate.clear hp hbefore hnotBefore)
  have hhost := (Keeps.of_ok (Keeps.mapM fun p _ => steady_refresh config src out p) hfirst).host
  have hmade := refresh_eq_ok hp.straight (hstraight p (World.reports_iff.mp hp).1).2
    hunaffected.tree₁ hrefresh
  have htree₂ := hmade.tree hunaffected.tree₁
  have hmades₂ := mapM_refresh_eq_ok (fun q hq => hstraight q (hlater hq)) htree₂ hlast
  exact ⟨made, w₁, w₂, hhost, hunaffected, hrefresh, hmade,
    (hmades₂.unaffected htree₂ (hseparate.clear hp hlater hnotLater)).output⟩

/-- What applying changes comes to if they report one template. -/
theorem applyChanges_alone {made : Option Path} (hne : changes ≠ [])
    (halone : ∀ c ∈ changes, w.cwd.resolve? c.path = some p)
    (hsuffix : p.suffix = config.templateSuffix)
    (hrun : (refresh config src out p).run w = .ok made w') :
    (applyChanges config src out changes).run w = .ok made.toList w' := by
  rw [run_applyChanges_of_paths (paths_of_alone halone), World.reported_of_alone hne halone,
    if_pos hsuffix, List.mapM_cons, EStateM.run_bind, bind_of_ok hrun]
  cases made <;> rfl

/-- A batch touches no files but the modules of the templates that it reports, whether the
session succeeds or fails. And if these keep clear of each other and of the templates, and
the session succeeds, a template with an error leaves its module as it was, and each module
is in the end what it would be if its template had been reported alone. For this the
directory of modules is a resolved one, as it is for every session that watches. -/
theorem applyChanges_footprint (config : Config) (src out : Path) (changes : List Change)
    (hcwd : w.cwd.Straight) :
    (∀ place, (∀ p target, w.Reports config src out changes p target →
        place ≠ (w.cwd.resolve target).parts) →
      ∀ bytes, (after (applyChanges config src out changes) w).files.at? place =
        some (.file bytes) ↔ w.files.at? place = some (.file bytes)) ∧
    (config.fault? = none → out.Straight → w.files.Tree → w.Separate config src out changes →
      ∀ outs w', (applyChanges config src out changes).run w = .ok outs w' →
      ∀ p target, w.Reports config src out changes p target →
        (∀ bytes e, w.files.at? p.parts = some (.file bytes) →
          config.moduleOf p bytes = .error (.template e) →
          w'.files.at? target.parts = w.files.at? target.parts) ∧
        ∀ alone, alone ≠ [] → (∀ c ∈ alone, w.cwd.resolve? c.path = some p) →
          ∃ outs₁ w₁, (applyChanges config src out alone).run w = .ok outs₁ w₁ ∧
            w'.files.at? target.parts = w₁.files.at? target.parts) := by
  refine ⟨fun place hplace => (applyChanges_spares hcwd.2 hplace).file, ?_⟩
  intro hfault hout htree hseparate outs w' hrun p target hp
  obtain ⟨made, w₁, w₂, hhost, hunaffected, hrefresh, hmade, hend⟩ :=
    exists_refresh_of_applyChanges hfault hout htree hseparate hp hrun
  constructor
  · intro bytes e hfile hmodule
    have hfile₁ := (hunaffected.template bytes).mpr hfile
    rw [hend, hmade.unchanged_of_error hfile₁ hmodule, hunaffected.output]
  · intro alone hne halone
    have htarget := Path.output_straight hout hp.straight.2 (Config.dots hfault).1 hp.output
    obtain ⟨w₃, hrun₃, hat⟩ :=
      refresh_unaffected hp.straight hp.output htarget hhost hunaffected hrefresh
    exact ⟨_, w₃, applyChanges_alone hne halone hp.suffix hrun₃, hend.trans hat.symm⟩

end Session

/-- Whether a template is passed over for an error of its own. -/
def isRejected : Except Failure Text → Bool
  | .error (.template _) => true
  | _ => false

theorem mixedWorld_footprint :
    mixedWorld.cwd.Straight ∧ Config.fault? {} = none ∧ mixedWorld.files.Tree ∧
    mixedWorld.Separate {} ⟨.slash, ["s"]⟩ ⟨.slash, ["s"]⟩ mixedChanges ∧
    (∀ bytes, (Session.after (Session.applyChanges {} ⟨.slash, ["s"]⟩ ⟨.slash, ["s"]⟩
        mixedChanges) mixedWorld).files.at? ["s", "note"] = some (.file bytes) ↔
      mixedWorld.files.at? ["s", "note"] = some (.file bytes)) ∧
    ∃ outs w', (Session.applyChanges {} ⟨.slash, ["s"]⟩ ⟨.slash, ["s"]⟩ mixedChanges).run
        mixedWorld = .ok outs w' ∧
      w'.files.at? ["s", "a.jsx"] = mixedWorld.files.at? ["s", "a.jsx"] ∧
      ∃ outs₁ w₁, (Session.applyChanges {} ⟨.slash, ["s"]⟩ ⟨.slash, ["s"]⟩
          [⟨.deleted, ⟨.slash, ["s", "c.html"]⟩⟩]).run mixedWorld = .ok outs₁ w₁ ∧
        w'.files.at? ["s", "c.jsx"] = w₁.files.at? ["s", "c.jsx"] := by
  have hcwd : mixedWorld.cwd.Straight := by decide
  have htree : mixedWorld.files.Tree := by decide +kernel
  have hseparate : mixedWorld.Separate {} ⟨.slash, ["s"]⟩ ⟨.slash, ["s"]⟩ mixedChanges := by
    decide +kernel
  have hok : ((Session.applyChanges {} ⟨.slash, ["s"]⟩ ⟨.slash, ["s"]⟩ mixedChanges).run'
      mixedWorld).isSome = true := by decide +kernel
  obtain ⟨hspared, hapart⟩ :=
    Session.applyChanges_footprint {} ⟨.slash, ["s"]⟩ ⟨.slash, ["s"]⟩ mixedChanges hcwd
  refine ⟨hcwd, by decide, htree, hseparate, hspared ["s", "note"] ?_, ?_⟩
  · intro p target hp
    have hplaces : ∀ p ∈ mixedWorld.reported {} mixedChanges,
        ∀ target ∈ (p.output ⟨.slash, ["s"]⟩ ⟨.slash, ["s"]⟩ (Config.extension {})).toOption,
          (["s", "note"] : Place) ≠ (mixedWorld.cwd.resolve target).parts := by decide +kernel
    obtain ⟨hreported, hout⟩ := World.reports_iff.mp hp
    exact hplaces p hreported target (by rw [hout]; rfl)
  · unfold EStateM.run' at hok
    cases hrun : (Session.applyChanges {} ⟨.slash, ["s"]⟩ ⟨.slash, ["s"]⟩ mixedChanges).run
        mixedWorld with
    | error f w' =>
      rw [hrun] at hok
      cases hok
    | ok outs w' =>
      have hboth := hapart (by decide) (by decide) htree hseparate outs w' hrun
      refine ⟨outs, w', rfl, ?_, ?_⟩
      · have hbroken : isRejected (Config.moduleOf {} ⟨.slash, ["s", "a.html"]⟩ draft) = true := by
          decide +kernel
        unfold isRejected at hbroken
        split at hbroken
        · next e hmodule =>
          refine (hboth ⟨.slash, ["s", "a.html"]⟩ ⟨.slash, ["s", "a.jsx"]⟩
            ⟨?_, by decide, by decide +kernel⟩).1 draft e (by decide +kernel) hmodule
          exact ⟨⟨.modified, Path.parse "/s/a.html"⟩, by decide +kernel, by decide +kernel⟩
        · cases hbroken
      · refine (hboth ⟨.slash, ["s", "c.html"]⟩ ⟨.slash, ["s", "c.jsx"]⟩
          ⟨?_, by decide, by decide +kernel⟩).2 _ (List.cons_ne_nil _ _) ?_
        · exact ⟨⟨.deleted, Path.parse "/s/c.html"⟩, by decide +kernel, by decide +kernel⟩
        · intro c hc
          rw [List.mem_singleton.mp hc]
          decide +kernel

section Counterexamples

/-- What a session that has come to its end has written, and what it has left at a place. -/
def seenAt (place : Place) :
    EStateM.Result Failure World (List Path) → Option (List Path × Option Entry)
  | .ok outs w => some (outs, w.files.at? place)
  | .error _ _ => none

def detourEntries : List (Place × Entry) :=
  [(["s"], .directory), (["s", "a.html"], .file rule), (["o"], .directory),
    (["o", "b.jsx"], .file rule)]

/-- A template, and the module of another one that is gone. -/
def detourWorld : World :=
  { cwd := ⟨.slash, []⟩, files := Std.TreeMap.ofList detourEntries compare }

/-- What is seen of the old module if modules go to a directory that is not resolved. -/
def detourSeen (changes : List Change) : Option (List Path × Option Entry) :=
  seenAt ["o", "b.jsx"] ((Session.applyChanges {} ⟨.slash, ["s"]⟩ ⟨.slash, ["x", "..", "o"]⟩
    changes).run detourWorld)

def homonymEntries : List (Place × Entry) :=
  [(["s"], .directory), (["s", "a.html"], .file rule), (["s", "a.txt"], .file rule)]

/-- A template, and a file that differs from it in its suffix only. -/
def homonymWorld : World :=
  { cwd := ⟨.slash, []⟩, files := Std.TreeMap.ofList homonymEntries compare }

/-- What is seen of the module of the template. -/
def homonymSeen (changes : List Change) : Option (List Path × Option Entry) :=
  seenAt ["s", "a.jsx"] ((Session.applyChanges {} ⟨.slash, ["s"]⟩ ⟨.slash, ["s"]⟩
    changes).run homonymWorld)

/-- What becomes of a module can depend on what else is reported. A directory of modules that
is not resolved can lead through one that is only made for another template: the old module
is out of reach, unless both are reported. And a file that is no template has the place of a
module too: nothing is written there for it, but for a template that shares its name. -/
theorem outputs_depend_on_batch :
    (detourWorld.Separate {} ⟨.slash, ["s"]⟩ ⟨.slash, ["x", "..", "o"]⟩
        [⟨.added, ⟨.slash, ["s", "a.html"]⟩⟩, ⟨.deleted, ⟨.slash, ["s", "b.html"]⟩⟩] ∧
      detourSeen [⟨.deleted, ⟨.slash, ["s", "b.html"]⟩⟩] = some ([], some (.file rule)) ∧
      detourSeen [⟨.added, ⟨.slash, ["s", "a.html"]⟩⟩, ⟨.deleted, ⟨.slash, ["s", "b.html"]⟩⟩] =
        some ([⟨.slash, ["x", "..", "o", "a.jsx"]⟩], none)) ∧
    homonymWorld.Separate {} ⟨.slash, ["s"]⟩ ⟨.slash, ["s"]⟩
        [⟨.modified, ⟨.slash, ["s", "a.txt"]⟩⟩, ⟨.modified, ⟨.slash, ["s", "a.html"]⟩⟩] ∧
      Path.output ⟨.slash, ["s", "a.txt"]⟩ ⟨.slash, ["s"]⟩ ⟨.slash, ["s"]⟩ ".jsx" =
        .ok ⟨.slash, ["s", "a.jsx"]⟩ ∧
      homonymSeen [⟨.modified, ⟨.slash, ["s", "a.txt"]⟩⟩] = some ([], none) ∧
      homonymSeen [⟨.modified, ⟨.slash, ["s", "a.txt"]⟩⟩, ⟨.modified, ⟨.slash, ["s", "a.html"]⟩⟩] =
        some ([⟨.slash, ["s", "a.jsx"]⟩], some (.file (ruleModule "A"))) := by
  refine ⟨⟨?_, ?_, ?_⟩, ?_, ?_, ?_, ?_⟩ <;> decide +kernel

end Counterexamples

end JsxTemplate
