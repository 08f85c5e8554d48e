import JsxTemplate.Proofs.Compiling

/-!
# Bringing modules up to date

What a session does for one reported template, and for all of them in turn. The
modules of different templates stand at different places and no module is taken for
a template, so that each template is seen as it was when the session began and no
later one undoes what was done for it.
-/

namespace JsxTemplate

/-- The directories of templates and modules are complete, and no module looks like
a template. -/
structure Layout (config : Config) (src out : Path) : Prop where
  src_straight : src.Straight
  out_straight : out.Straight
  fault : config.fault? = none
  allowed : Path.suffixAllowed config.extension
  apart : ¬ config.templateSuffix <:+ config.extension

/-- A path with the suffix of templates at or below their directory. The directory itself is
one only if `out` has a name that can be changed: otherwise it has no module. -/
structure IsTemplate (config : Config) (src out t : Path) : Prop where
  straight : t.Straight
  root : t.root = src.root
  below : ∃ names, t.parts = src.parts ++ names ∧ (names = [] → out.name ≠ [])
  suffix : t.suffix = config.templateSuffix

instance (config : Config) (src out t : Path) : Decidable (IsTemplate config src out t) :=
  decidable_of_iff (t.Straight ∧ t.root = src.root ∧
      (t.parts = src.parts ++ t.parts.drop src.parts.length ∧
        (t.parts.drop src.parts.length = [] → out.name ≠ [])) ∧
      t.suffix = config.templateSuffix) <| by
    constructor
    · rintro ⟨hstraight, hroot, hbelow, hsuffix⟩
      exact ⟨hstraight, hroot, ⟨_, hbelow⟩, hsuffix⟩
    · rintro ⟨hstraight, hroot, ⟨names, hparts, hname⟩, hsuffix⟩
      refine ⟨hstraight, hroot, ?_, hsuffix⟩
      rw [hparts, List.drop_left]
      exact ⟨rfl, hname⟩

variable {config : Config} {src out t p q target : Path}

namespace Layout

theorem suffix_ne_nil (lay : Layout config src out) (h : p.suffix = config.templateSuffix) :
    p.suffix ≠ [] := by
  intro hnil
  have hdot := (Config.dots lay.fault).2
  rw [← h, hnil] at hdot
  cases hdot

/-- Each template has a module. -/
theorem exists_output (lay : Layout config src out) (ht : IsTemplate config src out t) :
    ∃ target, t.output src out config.extension = .ok target := by
  obtain ⟨names, hparts, hname⟩ := ht.below
  by_cases hne : names = []
  · subst hne
    exact ⟨_, Path.output_of_self ht.root (hparts.trans (List.append_nil _)) (hname rfl)
      lay.allowed⟩
  · have hnamed := Path.name_ne_nil_of_suffix (lay.suffix_ne_nil ht.suffix)
    exact ⟨_, Path.output_of_below ht.root hparts hne hnamed lay.allowed⟩

theorem output_straight (lay : Layout config src out) (hp : p.Straight)
    (h : p.output src out config.extension = .ok target) : target.Straight :=
  Path.output_straight lay.out_straight hp.2 (Config.dots lay.fault).1 h

/-- No module stands at the place of a template. -/
theorem place_ne_output (lay : Layout config src out) (hp : p.suffix = config.templateSuffix)
    (h : q.output src out config.extension = .ok target) : p.parts ≠ target.parts := by
  intro hplace
  obtain ⟨hextension, hsuffix⟩ := Config.dots lay.fault
  refine Path.output_suffix_ne hsuffix hextension lay.apart h ?_
  rw [← hp, Path.suffix, Path.suffix, Path.name, Path.name, hplace]

/-- A path with a module and the suffix of templates is one. -/
theorem isTemplate_of_output (hp : p.Straight) (hsuffix : p.suffix = config.templateSuffix)
    (h : p.output src out config.extension = .ok target) : IsTemplate config src out p := by
  obtain ⟨below, hroot, hparts, -, hname, -⟩ := Path.output_eq_ok h
  refine ⟨hp, hroot, ⟨below, hparts, ?_⟩, hsuffix⟩
  rintro rfl
  rwa [List.append_nil] at hname

end Layout

/-! ## One template -/

/-- What a session can do for a reported path, with what it says it has made. -/
inductive Refreshed (config : Config) (src out : Path) (s : Store) (p : Path) :
    Option Path → Store → Prop
  | outside {f : PathFault} (hout : p.output src out config.extension = .error f) :
    Refreshed config src out s p none s
  | compiled {target : Path} {bytes : Text.Bytes} {source : Text} {s' : Store}
    (hout : p.output src out config.extension = .ok target)
    (hfile : s.at? p.parts = some (.file bytes)) (hmodule : config.moduleOf p bytes = .ok source)
    (hplaced : s.Placed target.parts source.encode s') :
    Refreshed config src out s p (some target) s'
  | rejected {target : Path} {bytes : Text.Bytes} {f : Failure}
    (hout : p.output src out config.extension = .ok target)
    (hfile : s.at? p.parts = some (.file bytes)) (hmodule : config.moduleOf p bytes = .error f) :
    Refreshed config src out s p none s
  | gone {target : Path} {s' : Store} (hout : p.output src out config.extension = .ok target)
    (hgone : ∀ bytes, s.at? p.parts ≠ some (.file bytes))
    (hcleared : s.Cleared target.parts s') :
    Refreshed config src out s p none s'

/-- A file with a module to write. -/
def Compiles (config : Config) (src out : Path) (s : Store) (t : Path) : Prop :=
  ∃ target bytes source, t.output src out config.extension = .ok target ∧
    s.at? t.parts = some (.file bytes) ∧ config.moduleOf t bytes = .ok source

/-- A reported path stops a session: it is denied something, or the host makes nothing of
the file. -/
def Stops (host : Host) (config : Config) (src out : Path) (s : Store) (p : Path)
    (f : Failure) : Prop :=
  host.Denies f ∨ ∃ bytes target, p.output src out config.extension = .ok target ∧
    s.at? p.parts = some (.file bytes) ∧ host.moduleOf config p bytes = .error f

namespace Session

variable {w w' : World}

/-- A path that has no module is passed over. -/
theorem refresh_of_outside {f : PathFault}
    (hout : p.output src out config.extension = .error f) (w : World) :
    (refresh config src out p).run w = .ok none w := by
  unfold refresh
  simp only [hout]
  rfl

theorem refresh_of_refused {f : Failure} (hout : p.output src out config.extension = .ok target)
    (hentry : (look p).run w = .error f w) :
    (refresh config src out p).run w = .error f w := by
  unfold refresh
  simp only [hout]
  exact bind_of_error hentry

/-- A file is compiled, and an error in it is noted. -/
theorem refresh_of_file {bytes : Text.Bytes}
    (hout : p.output src out config.extension = .ok target)
    (hentry : (look p).run w = .ok (some (.file bytes)) w) :
    (refresh config src out p).run w =
      (attempt config p target (some target) fun e =>
        note (.rejected e) >>= fun _ => pure none).run w := by
  unfold refresh
  simp only [hout]
  rw [bind_of_ok hentry]

theorem refresh_of_ok {bytes : Text.Bytes} {source : Text}
    (hout : p.output src out config.extension = .ok target)
    (hentry : (look p).run w = .ok (some (.file bytes)) w)
    (hrun : (compileFile config p (some target) none).run w = .ok source w') :
    (refresh config src out p).run w = .ok (some target) w' := by
  rw [refresh_of_file hout hentry, attempt_of_ok hrun]

theorem refresh_of_rejected {bytes : Text.Bytes} {e : TemplateError}
    (hout : p.output src out config.extension = .ok target)
    (hentry : (look p).run w = .ok (some (.file bytes)) w)
    (hrun : (compileFile config p (some target) none).run w = .error (.template e) w') :
    (refresh config src out p).run w =
      match w'.host.refuses (.rejected e) with
      | none => .ok none { w' with notices := w'.notices ++ [.rejected e] }
      | some g => .error (.unshown g) { w' with notices := w'.notices ++ [.rejected e] } := by
  rw [refresh_of_file hout hentry, attempt_of_template hrun, EStateM.run_bind, run_note]
  cases w'.host.refuses (.rejected e) <;> rfl

theorem refresh_of_error {bytes : Text.Bytes} {f : Failure}
    (hout : p.output src out config.extension = .ok target)
    (hentry : (look p).run w = .ok (some (.file bytes)) w)
    (hrun : (compileFile config p (some target) none).run w = .error f w')
    (hf : f.Foreign) : (refresh config src out p).run w = .error f w' := by
  rw [refresh_of_file hout hentry, attempt_of_error hrun hf]

theorem refresh_of_gone {entry : Option Entry}
    (hout : p.output src out config.extension = .ok target)
    (hentry : (look p).run w = .ok entry w) (hgone : ∀ bytes, entry ≠ some (.file bytes)) :
    (refresh config src out p).run w = (discard target >>= fun _ => pure none).run w := by
  unfold refresh
  simp only [hout]
  rw [bind_of_ok hentry]
  split
  · next bytes => exact absurd rfl (hgone bytes)
  · rfl

theorem discard_of_none (hfound : (look target).run w = .ok none w) :
    (discard target).run w = .ok ⟨⟩ w := by
  unfold discard
  rw [bind_of_ok hfound]
  rfl

/-- What stands at the place of a module is removed, and then this is said. -/
theorem discard_of_some {entry : Entry} (hfound : (look target).run w = .ok (some entry) w) :
    (discard target).run w = (unlink target >>= fun _ => note (.removed target)).run w := by
  unfold discard
  rw [bind_of_ok hfound]
  rfl

/-- Nothing is left of a module that is discarded, unless something is denied. -/
theorem discard_cases (htarget : target.Straight) (htree : w.files.Tree) :
    (∃ w', (discard target).run w = .ok ⟨⟩ w' ∧ w'.cwd = w.cwd ∧
      w.files.Cleared target.parts w'.files) ∨
    ∃ f w', w.host.Denies f ∧ (discard target).run w = .error f w' := by
  rcases look_cases htree htarget with hfound | ⟨f, hfound⟩
  · cases hat : w.files.at? target.parts with
    | none =>
      rw [hat] at hfound
      refine .inl ⟨w, discard_of_none hfound, rfl, ?_, hat, fun _ _ => rfl⟩
      rw [hat]
      exact (Option.some_ne_none _).symm
    | some entry =>
      rw [hat] at hfound
      have hrun := discard_of_some hfound
      rw [EStateM.run_bind, run_unlink] at hrun
      cases hunlink : w.files.unlink w.cwd target with
      | error r =>
        rw [hunlink] at hrun
        exact .inr ⟨_, w, .inl rfl, hrun⟩
      | ok files =>
        rw [hunlink] at hrun
        simp only [run_note] at hrun
        cases hshown : w.host.refuses (.removed target) with
        | none =>
          rw [hshown] at hrun
          exact .inl ⟨_, hrun, rfl, Store.unlink_eq_ok htarget hunlink⟩
        | some g =>
          rw [hshown] at hrun
          exact .inr ⟨_, _, Host.denies_unshown hshown, hrun⟩
  · refine .inr ⟨.file f, w, .inl rfl, ?_⟩
    unfold discard
    exact bind_of_error hfound

/-- What comes of a reported path. -/
theorem refresh_cases (hp : p.Straight)
    (hstraight : ∀ target, p.output src out config.extension = .ok target → target.Straight)
    (htree : w.files.Tree) :
    (∃ made w', (refresh config src out p).run w = .ok made w' ∧ w'.cwd = w.cwd ∧
      Refreshed config src out w.files p made w'.files) ∨
    ∃ f w', (refresh config src out p).run w = .error f w' ∧
      Stops w.host config src out w.files p f := by
  cases hout : p.output src out config.extension with
  | error f =>
    exact .inl ⟨none, w, refresh_of_outside hout w, rfl, .outside hout⟩
  | ok target =>
    have htarget := hstraight target hout
    rcases look_cases htree hp with hentry | ⟨f, hentry⟩
    · by_cases hfile : ∃ bytes, w.files.at? p.parts = some (.file bytes)
      · obtain ⟨bytes, hfile⟩ := hfile
        rw [hfile] at hentry
        rcases compileFile_cases htarget config p w with
          ⟨source, w', hmodule, hrun, hcwd, hplaced⟩ | ⟨f, w', hmodule, hrun, hcwd, hsame⟩ |
          ⟨f, w', hf, hrun⟩
        · obtain ⟨bytes, hat, hmodule⟩ := World.moduleOf_eq_ok hp hmodule
          exact .inl ⟨some target, w', refresh_of_ok hout hentry hrun, hcwd,
            .compiled hout hat hmodule hplaced⟩
        · rcases World.moduleOf_eq_error hp hmodule with hf | ⟨bytes, hat, hmodule⟩
          · have hdenied : w.host.Denies f := .inl hf
            exact .inr ⟨f, w', refresh_of_error hout hentry hrun hdenied.foreign, .inl hdenied⟩
          · cases f with
            | template e =>
              have hrefresh := refresh_of_rejected hout hentry hrun
              cases hshown : w'.host.refuses (.rejected e) with
              | none =>
                rw [hshown] at hrefresh
                refine .inl ⟨none, _, hrefresh, hcwd, ?_⟩
                show Refreshed config src out w.files p none w'.files
                rw [hsame]
                exact .rejected hout hat (Host.moduleOf_eq_template hmodule)
              | some g =>
                rw [hshown] at hrefresh
                rw [((steady_compileFile _ _ _ _).of_error hrun).2] at hshown
                exact .inr ⟨_, _, hrefresh, .inl (Host.denies_unshown hshown)⟩
            | _ =>
              refine .inr ⟨_, w', refresh_of_error hout hentry hrun ?_,
                .inr ⟨bytes, target, hout, hat, hmodule⟩⟩
              exact fun _ => Failure.noConfusion
        · exact .inr ⟨f, w', refresh_of_error hout hentry hrun hf.denies.foreign,
            .inl hf.denies⟩
      · have hgone : ∀ bytes, w.files.at? p.parts ≠ some (.file bytes) := fun bytes hat =>
          hfile ⟨bytes, hat⟩
        have hrefresh := refresh_of_gone hout hentry hgone
        rcases discard_cases htarget htree with ⟨w', hrun, hcwd, hcleared⟩ | ⟨f, w', hf, hrun⟩
        · rw [bind_of_ok hrun] at hrefresh
          exact .inl ⟨none, w', hrefresh, hcwd, .gone hout hgone hcleared⟩
        · rw [bind_of_error hrun] at hrefresh
          exact .inr ⟨f, w', hrefresh, .inl hf⟩
    · exact .inr ⟨.file f, w, refresh_of_refused hout hentry, .inl (.inl rfl)⟩

end Session

namespace Refreshed

variable {s s' : Store} {made : Option Path}

theorem unchanged {f : PathFault} (h : Refreshed config src out s p made s')
    (hout : p.output src out config.extension = .error f) : s' = s := by
  cases h with
  | outside _ => rfl
  | rejected _ _ _ => rfl
  | compiled hok _ _ _ =>
    rw [hout] at hok
    cases hok
  | gone hok _ _ =>
    rw [hout] at hok
    cases hok

/-- A template without a module changes nothing. -/
theorem unchanged_of_error {bytes : Text.Bytes} {f : Failure}
    (h : Refreshed config src out s p made s') (hfile : s.at? p.parts = some (.file bytes))
    (hmodule : config.moduleOf p bytes = .error f) : s' = s := by
  cases h with
  | outside _ => rfl
  | rejected _ _ _ => rfl
  | compiled _ hat hok _ =>
    cases hfile.symm.trans hat
    cases hmodule.symm.trans hok
  | gone _ hgone _ => exact absurd hfile (hgone bytes)

theorem kept (h : Refreshed config src out s p made s') (htree : s.Tree)
    (hout : p.output src out config.extension = .ok target) : s.Kept target.parts s' := by
  cases h with
  | outside _ => exact .refl htree _
  | rejected _ _ _ => exact .refl htree _
  | compiled hok _ _ hplaced =>
    obtain rfl := Except.ok.inj (hok.symm.trans hout)
    exact hplaced.kept htree
  | gone hok _ hcleared =>
    obtain rfl := Except.ok.inj (hok.symm.trans hout)
    exact hcleared.kept htree

theorem tree (h : Refreshed config src out s p made s') (htree : s.Tree) : s'.Tree := by
  cases hout : p.output src out config.extension with
  | error f => exact h.unchanged hout ▸ htree
  | ok target => exact (h.kept htree hout).tree

theorem directories (h : Refreshed config src out s p made s') (htree : s.Tree) {place : Place}
    (hdir : s.at? place = some .directory) : s'.at? place = some .directory := by
  cases hout : p.output src out config.extension with
  | error f => exact h.unchanged hout ▸ hdir
  | ok target => exact (h.kept htree hout).directories place hdir

/-- Only the module of the reported path can have changed, among the files. -/
theorem files (h : Refreshed config src out s p made s') (htree : s.Tree) {place : Place}
    (hplace : ∀ target, p.output src out config.extension = .ok target → place ≠ target.parts)
    (bytes : Text.Bytes) :
    s'.at? place = some (.file bytes) ↔ s.at? place = some (.file bytes) := by
  cases hout : p.output src out config.extension with
  | error f => rw [h.unchanged hout]
  | ok target => exact (h.kept htree hout).files place (hplace target hout) bytes

/-- Nothing changes that does not lead to the module of the reported path. -/
theorem elsewhere (h : Refreshed config src out s p made s') (htree : s.Tree) {place : Place}
    (hplace : ∀ target, p.output src out config.extension = .ok target →
      ¬ place <+: target.parts) : s'.at? place = s.at? place := by
  cases hout : p.output src out config.extension with
  | error f => rw [h.unchanged hout]
  | ok target => exact (h.kept htree hout).elsewhere place (hplace target hout)

/-- A place stays free if no module is written there or below it. -/
theorem none (h : Refreshed config src out s p made s') {place : Place}
    (hnone : s.at? place = none)
    (hplace : ∀ target, p.output src out config.extension = .ok target →
      (∃ bytes, s.at? p.parts = some (.file bytes)) → ¬ place <+: target.parts) :
    s'.at? place = none := by
  cases h with
  | outside _ => exact hnone
  | rejected _ _ _ => exact hnone
  | compiled hout hfile _ hplaced =>
    have hnot := hplace _ hout ⟨_, hfile⟩
    have hne : place ≠ _ := fun he => hnot (he ▸ List.prefix_rfl)
    rw [hplaced.elsewhere place hne fun hpre => hnot (hpre.trans (List.dropLast_prefix _)), hnone]
  | @gone target _ _ _ hcleared =>
    by_cases hne : place = target.parts
    · rw [hne, hcleared.here]
    · rw [hcleared.elsewhere place hne, hnone]

/-- The file of a template is as it was. -/
theorem template_file (h : Refreshed config src out s p made s') (lay : Layout config src out)
    (htree : s.Tree) (hq : q.suffix = config.templateSuffix) (bytes : Text.Bytes) :
    s'.at? q.parts = some (.file bytes) ↔ s.at? q.parts = some (.file bytes) :=
  h.files htree (fun _ hout => lay.place_ne_output hq hout) bytes

end Refreshed

/-! ## All of them -/

/-- What a session can do for a list of reported paths, one after the other. -/
inductive RefreshedAll (config : Config) (src out : Path) :
    Store → List Path → List (Option Path) → Store → Prop
  | nil {s : Store} : RefreshedAll config src out s [] [] s
  | cons {s s₁ s' : Store} {p : Path} {ps : List Path} {made : Option Path}
    {mades : List (Option Path)} (first : Refreshed config src out s p made s₁)
    (rest : RefreshedAll config src out s₁ ps mades s') :
    RefreshedAll config src out s (p :: ps) (made :: mades) s'

/-- What comes of a list of reported paths: all are brought up to date, or one of them
stops the session. -/
theorem Session.mapM_refresh_cases (lay : Layout config src out) :
    ∀ {ps : List Path} {w : World},
      (∀ p ∈ ps, p.Straight ∧ p.suffix = config.templateSuffix) → w.files.Tree →
      (∃ mades w', (ps.mapM (refresh config src out)).run w = .ok mades w' ∧ w'.cwd = w.cwd ∧
        RefreshedAll config src out w.files ps mades w'.files) ∨
      ∃ f w', (ps.mapM (refresh config src out)).run w = .error f w' ∧
        ∃ p ∈ ps, Stops w.host config src out w.files p f := by
  intro ps
  induction ps with
  | nil => exact fun {w} _ _ => .inl ⟨[], w, rfl, rfl, .nil⟩
  | cons p ps ih =>
    intro w hps htree
    rw [List.mapM_cons]
    obtain ⟨⟨hp, -⟩, hps⟩ := List.forall_mem_cons.mp hps
    rcases refresh_cases hp (fun _ => lay.output_straight hp) htree with
      ⟨made, w₁, hrun, hcwd, hmade⟩ | ⟨f, w₁, hrun, hstop⟩
    · rw [bind_of_ok hrun]
      rcases ih hps (hmade.tree htree) with ⟨mades, w', hrest, hcwd', hmades⟩ |
        ⟨f, w', hrest, q, hq, hstop⟩
      · refine .inl ⟨made :: mades, w', ?_, hcwd'.trans hcwd, .cons hmade hmades⟩
        rw [bind_of_ok hrest]
        rfl
      · refine .inr ⟨f, w', bind_of_error hrest, q, List.mem_cons_of_mem _ hq, ?_⟩
        rw [((steady_refresh config src out p).of_ok hrun).2] at hstop
        rcases hstop with hf | ⟨bytes, target, hout, hfile, hmodule⟩
        · exact .inl hf
        · have hsame := hmade.template_file lay htree (hps q hq).2 bytes
          exact .inr ⟨bytes, target, hout, hsame.mp hfile, hmodule⟩
    · exact .inr ⟨f, w₁, bind_of_error hrun, p, List.mem_cons_self, hstop⟩

namespace RefreshedAll

variable {s s' : Store} {ps : List Path} {mades : List (Option Path)}

theorem tree (h : RefreshedAll config src out s ps mades s') (htree : s.Tree) : s'.Tree := by
  induction h with
  | nil => exact htree
  | cons first _ ih => exact ih (first.tree htree)

theorem directories (h : RefreshedAll config src out s ps mades s') (htree : s.Tree)
    {place : Place} (hdir : s.at? place = some .directory) : s'.at? place = some .directory := by
  induction h with
  | nil => exact hdir
  | cons first _ ih => exact ih (first.tree htree) (first.directories htree hdir)

/-- A file that is no module of a reported path is as it was. -/
theorem files (h : RefreshedAll config src out s ps mades s') (htree : s.Tree) {place : Place}
    (hplace : ∀ p ∈ ps, ∀ target, p.output src out config.extension = .ok target →
      place ≠ target.parts) (bytes : Text.Bytes) :
    s'.at? place = some (.file bytes) ↔ s.at? place = some (.file bytes) := by
  induction h with
  | nil => rfl
  | cons first _ ih =>
    obtain ⟨hfirst, hrest⟩ := List.forall_mem_cons.mp hplace
    rw [ih (first.tree htree) hrest]
    exact first.files htree hfirst bytes

theorem elsewhere (h : RefreshedAll config src out s ps mades s') (htree : s.Tree)
    {place : Place} (hplace : ∀ p ∈ ps, ∀ target, p.output src out config.extension = .ok target →
      ¬ place <+: target.parts) : s'.at? place = s.at? place := by
  induction h with
  | nil => rfl
  | cons first _ ih =>
    obtain ⟨hfirst, hrest⟩ := List.forall_mem_cons.mp hplace
    rw [ih (first.tree htree) hrest, first.elsewhere htree hfirst]

theorem template_file (h : RefreshedAll config src out s ps mades s')
    (lay : Layout config src out) (htree : s.Tree) (hq : q.suffix = config.templateSuffix)
    (bytes : Text.Bytes) :
    s'.at? q.parts = some (.file bytes) ↔ s.at? q.parts = some (.file bytes) :=
  h.files htree (fun _ _ _ hout => lay.place_ne_output hq hout) bytes

/-- The module of a template differs in place from those of other reported paths. -/
theorem apart (hps : ∀ p ∈ ps, p.suffix = config.templateSuffix)
    (hp : p.suffix = config.templateSuffix) (hnot : p ∉ ps)
    (hout : p.output src out config.extension = .ok target) :
    ∀ q ∈ ps, ∀ other, q.output src out config.extension = .ok other →
      target.parts ≠ other.parts := by
  intro q hq other hother hplace
  have hsame := Path.output_inj hout hother (hp.trans (hps q hq).symm) hplace
  exact hnot (hsame ▸ hq)

/-- Each reported template that compiles has its module. -/
theorem written (h : RefreshedAll config src out s ps mades s') (lay : Layout config src out)
    (htree : s.Tree) (hnodup : ps.Nodup) (hps : ∀ p ∈ ps, p.suffix = config.templateSuffix)
    (hmem : p ∈ ps) (hout : p.output src out config.extension = .ok target)
    {bytes : Text.Bytes} {source : Text} (hfile : s.at? p.parts = some (.file bytes))
    (hmodule : config.moduleOf p bytes = .ok source) :
    s'.at? target.parts = some (.file source.encode) := by
  induction h with
  | nil => cases hmem
  | @cons s s₁ s' q ps made mades first rest ih =>
    obtain ⟨hnot, hdistinct⟩ := List.nodup_cons.mp hnodup
    obtain ⟨hq, hrest⟩ := List.forall_mem_cons.mp hps
    rcases List.mem_cons.mp hmem with rfl | hmem
    · have hhere : s₁.at? target.parts = some (.file source.encode) := by
        cases first with
        | outside hnone =>
          rw [hout] at hnone
          cases hnone
        | compiled hok hat hsource hplaced =>
          obtain rfl := Except.ok.inj (hok.symm.trans hout)
          rw [hfile] at hat
          cases hat
          obtain rfl := Except.ok.inj (hsource.symm.trans hmodule)
          exact hplaced.here
        | rejected _ hat hfault =>
          rw [hfile] at hat
          cases hat
          rw [hmodule] at hfault
          cases hfault
        | gone _ hgone _ => exact absurd hfile (hgone bytes)
      exact (rest.files (first.tree htree) (apart hrest hq hnot hout) _).mpr hhere
    · have hsame := first.template_file lay htree (hrest p hmem) bytes
      exact ih (first.tree htree) hdistinct hrest hmem (hsame.mpr hfile)

/-- A place stays free if no module of a reported template goes there or below it. -/
theorem none (h : RefreshedAll config src out s ps mades s') (lay : Layout config src out)
    (htree : s.Tree) (hps : ∀ p ∈ ps, p.suffix = config.templateSuffix) {place : Place}
    (hnone : s.at? place = none)
    (hplace : ∀ q ∈ ps, ∀ other, q.output src out config.extension = .ok other →
      (∃ bytes, s.at? q.parts = some (.file bytes)) → ¬ place <+: other.parts) :
    s'.at? place = none := by
  induction h with
  | nil => exact hnone
  | cons first _ ih =>
    obtain ⟨hfirst, hothers⟩ := List.forall_mem_cons.mp hplace
    obtain ⟨-, hrest⟩ := List.forall_mem_cons.mp hps
    refine ih (first.tree htree) hrest (first.none hnone hfirst) ?_
    rintro q hq other hother ⟨bytes, hfile⟩
    have hsame := first.template_file lay htree (hrest q hq) bytes
    exact hothers q hq other hother ⟨bytes, hsame.mp hfile⟩

/-- No file is left of the module of a reported template that is gone; and nothing is,
unless a module goes below its place. -/
theorem removed (h : RefreshedAll config src out s ps mades s') (lay : Layout config src out)
    (htree : s.Tree) (hnodup : ps.Nodup) (hps : ∀ p ∈ ps, p.suffix = config.templateSuffix)
    (hmem : p ∈ ps) (hout : p.output src out config.extension = .ok target)
    (hgone : ∀ bytes, s.at? p.parts ≠ some (.file bytes)) :
    (∀ bytes, s'.at? target.parts ≠ some (.file bytes)) ∧
      ((∀ q ∈ ps, ∀ other, q.output src out config.extension = .ok other →
        (∃ bytes, s.at? q.parts = some (.file bytes)) → ¬ target.parts <+: other.parts) →
      s'.at? target.parts = .none) := by
  induction h with
  | nil => cases hmem
  | @cons s s₁ s' q ps made mades first rest ih =>
    obtain ⟨hnot, hdistinct⟩ := List.nodup_cons.mp hnodup
    obtain ⟨hq, hrest⟩ := List.forall_mem_cons.mp hps
    have hfiles : ∀ q ∈ ps, (∃ bytes, s₁.at? q.parts = some (.file bytes)) →
        ∃ bytes, s.at? q.parts = some (.file bytes) := by
      rintro q hq ⟨bytes, hfile⟩
      exact ⟨bytes, (first.template_file lay htree (hrest q hq) bytes).mp hfile⟩
    rcases List.mem_cons.mp hmem with rfl | hmem
    · have hhere : s₁.at? target.parts = .none := by
        cases first with
        | outside hnone =>
          rw [hout] at hnone
          cases hnone
        | compiled _ hat _ _ => exact absurd hat (hgone _)
        | rejected _ hat _ => exact absurd hat (hgone _)
        | gone hok _ hcleared =>
          obtain rfl := Except.ok.inj (hok.symm.trans hout)
          exact hcleared.here
      refine ⟨fun bytes hfile => ?_, fun hbelow => ?_⟩
      · rw [rest.files (first.tree htree) (apart hrest hq hnot hout), hhere] at hfile
        cases hfile
      · refine rest.none lay (first.tree htree) hrest hhere fun q hq other hother hfile => ?_
        exact hbelow q (List.mem_cons_of_mem _ hq) other hother (hfiles q hq hfile)
    · have hstill : ∀ bytes, s₁.at? p.parts ≠ some (.file bytes) := fun bytes hfile =>
        hgone bytes ((first.template_file lay htree (hrest p hmem) bytes).mp hfile)
      obtain ⟨hnofile, hnone⟩ := ih (first.tree htree) hdistinct hrest hmem hstill
      refine ⟨hnofile, fun hbelow => hnone fun q hq other hother hfile => ?_⟩
      exact hbelow q (List.mem_cons_of_mem _ hq) other hother (hfiles q hq hfile)

/-- The modules that are said to be made are those of the reported templates that
compile, in their order. -/
theorem made (h : RefreshedAll config src out s ps mades s') (lay : Layout config src out)
    (htree : s.Tree) (hps : ∀ p ∈ ps, p.suffix = config.templateSuffix) :
    ∃ ts : List Path, ts.Sublist ps ∧
      (∀ t, t ∈ ts ↔ t ∈ ps ∧ Compiles config src out s t) ∧
      (mades.filterMap id).map Except.ok = ts.map (·.output src out config.extension) := by
  induction h with
  | nil => exact ⟨[], .slnil, by simp, rfl⟩
  | @cons s s₁ s' p ps made mades first rest ih =>
    obtain ⟨-, hrest⟩ := List.forall_mem_cons.mp hps
    obtain ⟨ts, hsub, hmem, hmades⟩ := ih (first.tree htree) hrest
    have hts : ∀ t, t ∈ ts ↔ t ∈ ps ∧ Compiles config src out s t := by
      intro t
      rw [hmem t]
      refine and_congr_right fun ht => ?_
      unfold Compiles
      simp only [first.template_file lay htree (hrest t ht)]
    -- a path for which nothing is made does not compile, so that the list stays as it is
    have hskip : ¬ Compiles config src out s p → ∀ t, t ∈ ts ↔
        t ∈ p :: ps ∧ Compiles config src out s t := by
      intro hnot t
      rw [hts t, List.mem_cons]
      refine ⟨fun h => ⟨.inr h.1, h.2⟩, fun h => ⟨h.1.resolve_left ?_, h.2⟩⟩
      rintro rfl
      exact hnot h.2
    cases first with
    | compiled hout hfile hmodule hplaced =>
      refine ⟨p :: ts, hsub.cons_cons p, fun t => ?_, ?_⟩
      · rw [List.mem_cons, hts t, List.mem_cons]
        refine ⟨fun h => ?_, fun h => h.1.imp_right fun ht => ⟨ht, h.2⟩⟩
        rcases h with rfl | h
        · exact ⟨.inl rfl, _, _, _, hout, hfile, hmodule⟩
        · exact ⟨.inr h.1, h.2⟩
      · rw [List.map_cons, hout, ← hmades]
        rfl
    | outside hnone =>
      refine ⟨ts, hsub.cons p, hskip ?_, hmades⟩
      rintro ⟨target, bytes, source, hout, -⟩
      rw [hout] at hnone
      cases hnone
    | rejected _ hat hfault =>
      refine ⟨ts, hsub.cons p, hskip ?_, hmades⟩
      rintro ⟨target, bytes, source, -, hfile, hmodule⟩
      rw [hfile] at hat
      cases hat
      rw [hmodule] at hfault
      cases hfault
    | gone _ hgone _ =>
      refine ⟨ts, hsub.cons p, hskip ?_, hmades⟩
      rintro ⟨target, bytes, source, -, hfile, -⟩
      exact hgone bytes hfile

end RefreshedAll

end JsxTemplate
