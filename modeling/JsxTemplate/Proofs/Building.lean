import JsxTemplate.Proofs.Listing

/-!
# Builds

A build goes through the templates of a directory in order and writes the module of
each to its place below the output directory. It stops at the first template that
has no module, and no file is touched but the modules of the templates before it.
-/

namespace JsxTemplate

variable {config : Config} {src out t p target : Path}

/-! ## One template after the other -/

/-- The module of a template has been put at its place. -/
structure Built (config : Config) (src out : Path) (s : Store) (t target : Path) (s' : Store) :
    Prop where
  output : t.output src out config.extension = .ok target
  placed : ∃ bytes source, s.at? t.parts = some (.file bytes) ∧
    config.moduleOf t bytes = .ok source ∧ s.Placed target.parts source.encode s'

/-- The modules of templates have been put at their places, one after the other. -/
inductive BuiltAll (config : Config) (src out : Path) :
    Store → List Path → List Path → Store → Prop
  | nil {s : Store} : BuiltAll config src out s [] [] s
  | cons {s s₁ s' : Store} {t target : Path} {ts targets : List Path}
    (first : Built config src out s t target s₁)
    (rest : BuiltAll config src out s₁ ts targets s') :
    BuiltAll config src out s (t :: ts) (target :: targets) s'

namespace Session

variable {ts : List Path} {w w' : World} {source : Text} {f : Failure}

theorem run_output (hout : t.output src out config.extension = .ok target) (w : World) :
    (ofExcept ((t.output src out config.extension).mapError Failure.path)).run w =
      .ok target w := by
  rw [hout]
  rfl

theorem buildOne_of_output (hout : t.output src out config.extension = .ok target) (w : World) :
    (buildOne config src out t).run w =
      (attempt config t target target fun e =>
        note (.failed t) >>= fun _ => throw (.template e)).run w := by
  unfold buildOne
  rw [bind_of_ok (run_output hout w)]

theorem buildOne_of_ok (hout : t.output src out config.extension = .ok target)
    (hrun : (compileFile config t (some target) none).run w = .ok source w') :
    (buildOne config src out t).run w = .ok target w' := by
  rw [buildOne_of_output hout, attempt_of_ok hrun]

/-- A template that does not compile ends its build, unless it cannot even be said. -/
theorem buildOne_of_error (hout : t.output src out config.extension = .ok target)
    (hrun : (compileFile config t (some target) none).run w = .error f w') :
    ∃ g w'', (buildOne config src out t).run w = .error g w'' ∧ w''.files = w'.files ∧
      (g = f ∨ ∃ shown, w'.host.refuses (.failed t) = some shown ∧ g = .unshown shown) := by
  rw [buildOne_of_output hout]
  by_cases hf : ∃ e, f = .template e
  · obtain ⟨e, rfl⟩ := hf
    rw [attempt_of_template hrun, EStateM.run_bind, run_note]
    cases hshown : w'.host.refuses (.failed t) with
    | none => exact ⟨_, _, rfl, rfl, .inl rfl⟩
    | some g => exact ⟨_, _, rfl, rfl, .inr ⟨g, rfl, rfl⟩⟩
  · exact ⟨f, w', attempt_of_error hrun (not_exists.mp hf), rfl, .inl rfl⟩

/-- What comes of one template of a build. -/
theorem buildOne_cases (hout : t.output src out config.extension = .ok target)
    (ht : t.Straight) (htarget : target.Straight) (w : World) :
    (∃ w', (buildOne config src out t).run w = .ok target w' ∧
      Built config src out w.files t target w'.files) ∨
    ∃ f w', (buildOne config src out t).run w = .error f w' ∧
      ((w.moduleOf config t = .error f ∧ w'.files = w.files) ∨ Unplaced w target f) := by
  have hsteady := steady_compileFile config t (some target) none
  rcases compileFile_cases htarget config t w with
    ⟨source, w', hmodule, hrun, -, hplaced⟩ | ⟨f, w', hmodule, hrun, -, hsame⟩ |
    ⟨f, w', hf, hrun⟩
  · obtain ⟨bytes, hfile, hmodule⟩ := World.moduleOf_eq_ok ht hmodule
    exact .inl ⟨w', buildOne_of_ok hout hrun, hout, bytes, source, hfile, hmodule, hplaced⟩
  · obtain ⟨g, w'', hbuild, hsame', rfl | ⟨shown, hshown, rfl⟩⟩ := buildOne_of_error hout hrun
    · exact .inr ⟨g, w'', hbuild, .inl ⟨hmodule, hsame'.trans hsame⟩⟩
    · rw [(hsteady.of_error hrun).2] at hshown
      exact .inr ⟨_, w'', hbuild, .inr (.unshown hshown)⟩
  · obtain ⟨g, w'', hbuild, -, rfl | ⟨shown, hshown, rfl⟩⟩ := buildOne_of_error hout hrun
    · exact .inr ⟨g, w'', hbuild, .inr hf⟩
    · rw [(hsteady.of_error hrun).2] at hshown
      exact .inr ⟨_, w'', hbuild, .inr (.unshown hshown)⟩

/-- What comes of the templates of a build: all modules are written, or those of the
templates before one that stops the build. -/
theorem mapM_buildOne_cases (houtput : ∀ t ∈ ts, ∃ target,
    t.output src out config.extension = .ok target ∧ target.Straight)
    (hts : ∀ t ∈ ts, t.Straight) (w : World) :
    (∃ targets w', (ts.mapM (buildOne config src out)).run w = .ok targets w' ∧
      BuiltAll config src out w.files ts targets w'.files) ∨
    ∃ (before : List Path) (t : Path) (after targets : List Path) (w₁ : World) (f : Failure)
      (w' : World), ts = before ++ t :: after ∧ w₁.host = w.host ∧
      BuiltAll config src out w.files before targets w₁.files ∧
      (ts.mapM (buildOne config src out)).run w = .error f w' ∧
      ((w₁.moduleOf config t = .error f ∧ w'.files = w₁.files) ∨
        ∃ target, t.output src out config.extension = .ok target ∧ Unplaced w₁ target f) := by
  induction ts generalizing w with
  | nil => exact .inl ⟨[], w, rfl, .nil⟩
  | cons t ts ih =>
    obtain ⟨⟨target, hout, htarget⟩, houtput⟩ := List.forall_mem_cons.mp houtput
    obtain ⟨ht, hts⟩ := List.forall_mem_cons.mp hts
    rw [List.mapM_cons]
    rcases buildOne_cases hout ht htarget w with ⟨w₁, hrun, hbuilt⟩ | ⟨f, w', hrun, hstop⟩
    · rw [bind_of_ok hrun]
      have hhost := ((steady_buildOne config src out t).of_ok hrun).2
      rcases ih houtput hts w₁ with ⟨targets, w', hrest, hall⟩ |
        ⟨before, u, after, targets, w₂, f, w', rfl, hhost', hall, hrest, hstop⟩
      · refine .inl ⟨target :: targets, w', ?_, .cons hbuilt hall⟩
        rw [bind_of_ok hrest]
        rfl
      · exact .inr ⟨t :: before, u, after, target :: targets, w₂, f, w', rfl,
          hhost'.trans hhost, .cons hbuilt hall, bind_of_error hrest, hstop⟩
    · refine .inr ⟨[], t, ts, [], w, f, w', rfl, rfl, .nil, bind_of_error hrun, ?_⟩
      exact hstop.imp_right fun hunplaced => ⟨target, hout, hunplaced⟩

/-- Building one template after the other adds all their modules to the summary. -/
theorem run_foldlM_buildOne (config : Config) (src out : Path) (ts : List Path)
    (summary : BuildSummary) (w : World) :
    (ts.foldlM (fun (summary : BuildSummary) t =>
        return summary.add (← buildOne config src out t)) summary).run w =
      match (ts.mapM (buildOne config src out)).run w with
      | .ok targets w' => .ok ⟨summary.out, summary.compiled + targets.length,
          summary.targets ++ targets⟩ w'
      | .error f w' => .error f w' := by
  induction ts generalizing summary w with
  | nil =>
    show EStateM.Result.ok summary w = .ok ⟨summary.out, summary.compiled,
      summary.targets ++ []⟩ w
    rw [List.append_nil]
  | cons t ts ih =>
    rw [List.mapM_cons, List.foldlM_cons, bind_assoc]
    cases hrun : (buildOne config src out t).run w with
    | error f w₁ => rw [bind_of_error hrun, bind_of_error hrun]
    | ok target w₁ =>
      rw [bind_of_ok hrun, bind_of_ok hrun, pure_bind, ih, EStateM.run_bind]
      cases (ts.mapM (buildOne config src out)).run w₁ with
      | error f w' => rfl
      | ok targets w' =>
        unfold BuildSummary.add
        simp only [List.append_assoc, List.singleton_append, EStateM.run_pure, List.length_cons,
          Nat.add_right_comm _ 1, Nat.add_assoc]

end Session

/-! ## What a build leaves -/

theorem Built.kept {s s' : Store} (h : Built config src out s t target s') (htree : s.Tree) :
    s.Kept target.parts s' := by
  obtain ⟨bytes, source, -, -, hplaced⟩ := h.placed
  exact hplaced.kept htree

/-- There is still room for a file elsewhere once another has been put at its place. -/
theorem Store.Room.after_placed {s s' : Store} {place : Place} {bytes : Text.Bytes}
    (h : s.Room p) (hplaced : s.Placed place bytes s') (habove : ¬ place <+: p.parts)
    (hbelow : ¬ p.parts <+: place) : s'.Room p where
  straight := h.straight
  short := h.short
  no_zero := h.no_zero
  free q hq b hfile := by
    have hne : q ≠ place := by
      rintro rfl
      exact habove (hq.trans (List.dropLast_prefix _))
    by_cases hway : q <+: place.dropLast
    · rw [hplaced.on_way q hway] at hfile
      cases hfile
    · rw [hplaced.elsewhere q hne hway] at hfile
      exact h.free q hq b hfile
  no_directory hdir := by
    have hne : p.parts ≠ place := fun he => hbelow (he ▸ List.prefix_rfl)
    rw [hplaced.elsewhere _ hne fun hway => hbelow (hway.trans (List.dropLast_prefix _))] at hdir
    exact h.no_directory hdir

namespace BuiltAll

variable {s s' : Store} {ts targets : List Path}

theorem outputs (h : BuiltAll config src out s ts targets s') :
    ts.map (·.output src out config.extension) = targets.map .ok := by
  induction h with
  | nil => rfl
  | cons first _ ih => rw [List.map_cons, List.map_cons, first.output, ih]

theorem exists_template (h : BuiltAll config src out s ts targets s') (hmem : target ∈ targets) :
    ∃ t ∈ ts, t.output src out config.extension = .ok target := by
  have hok : Except.ok target ∈ targets.map (Except.ok : Path → Except PathFault Path) :=
    List.mem_map_of_mem hmem
  rw [← h.outputs] at hok
  exact List.mem_map.mp hok

theorem tree (h : BuiltAll config src out s ts targets s') (htree : s.Tree) : s'.Tree := by
  induction h with
  | nil => exact htree
  | cons first _ ih => exact ih (first.kept htree).tree

theorem directories (h : BuiltAll config src out s ts targets s') (htree : s.Tree) {place : Place}
    (hdir : s.at? place = some .directory) : s'.at? place = some .directory := by
  induction h with
  | nil => exact hdir
  | cons first _ ih =>
    exact ih (first.kept htree).tree ((first.kept htree).directories place hdir)

/-- A file that is none of the modules is as it was. -/
theorem files (h : BuiltAll config src out s ts targets s') (htree : s.Tree) {place : Place}
    (hplace : ∀ target ∈ targets, place ≠ target.parts) (bytes : Text.Bytes) :
    s'.at? place = some (.file bytes) ↔ s.at? place = some (.file bytes) := by
  induction h with
  | nil => rfl
  | cons first _ ih =>
    obtain ⟨hfirst, hrest⟩ := List.forall_mem_cons.mp hplace
    rw [ih (first.kept htree).tree hrest]
    exact (first.kept htree).files place hfirst bytes

theorem room (h : BuiltAll config src out s ts targets s') (hroom : s.Room p)
    (hp : ∀ target ∈ targets, ¬ target.parts <+: p.parts ∧ ¬ p.parts <+: target.parts) :
    s'.Room p := by
  induction h with
  | nil => exact hroom
  | cons first _ ih =>
    obtain ⟨⟨habove, hbelow⟩, hrest⟩ := List.forall_mem_cons.mp hp
    obtain ⟨bytes, source, -, -, hplaced⟩ := first.placed
    exact ih (hroom.after_placed hplaced habove hbelow) hrest

/-- Each template has its module, unless a later template has it written over. -/
theorem written (h : BuiltAll config src out s ts targets s') (htree : s.Tree)
    (hown : ∀ t ∈ ts, ∀ target ∈ targets, t.parts ≠ target.parts) (ht : t ∈ ts)
    (hout : t.output src out config.extension = .ok target)
    (hlater : ts.Pairwise fun u v => u = t → ∀ other,
      v.output src out config.extension = .ok other → target.parts ≠ other.parts) :
    ∃ bytes source, s.at? t.parts = some (.file bytes) ∧
      config.moduleOf t bytes = .ok source ∧
      s'.at? target.parts = some (.file source.encode) := by
  induction h with
  | nil => cases ht
  | @cons s s₁ s' u made ts targets first rest ih =>
    obtain ⟨hfirst, hrest⟩ := List.pairwise_cons.mp hlater
    rcases List.mem_cons.mp ht with rfl | hmem
    · obtain ⟨bytes, source, hfile, hmodule, hplaced⟩ := first.placed
      obtain rfl := Except.ok.inj (first.output.symm.trans hout)
      refine ⟨bytes, source, hfile, hmodule, ?_⟩
      refine (rest.files (first.kept htree).tree (fun other hother => ?_) _).mpr hplaced.here
      obtain ⟨v, hv, hvout⟩ := rest.exists_template hother
      exact hfirst v hv rfl other hvout
    · obtain ⟨bytes, source, hfile, hmodule, hthere⟩ := ih (first.kept htree).tree
        (fun v hv other hother =>
          hown v (List.mem_cons_of_mem _ hv) other (List.mem_cons_of_mem _ hother)) hmem hrest
      have hne := hown t ht made List.mem_cons_self
      exact ⟨bytes, source, ((first.kept htree).files _ hne bytes).mp hfile, hmodule, hthere⟩

end BuiltAll

/-! ## The whole build -/

/-- No name in a store is a double dot. -/
def Store.Straight (s : Store) : Prop := ∀ q, s.at? q ≠ none → ['.', '.'] ∉ q

instance (s : Store) : Decidable s.Straight := decidable_of_iff _ Store.forall_places.symm

/-- There is room for files at the ends of all these paths: for each, and none of them is
in the way of another. -/
structure Store.RoomForAll (s : Store) (targets : List Path) : Prop where
  room : ∀ p ∈ targets, s.Room p
  apart : targets.Pairwise fun p q => ¬ p.parts <+: q.parts ∧ ¬ q.parts <+: p.parts

/-- The modules of templates stand at their places, and every other file is as it was. -/
structure Mirrored (config : Config) (s : Store) (ts targets : List Path) (s' : Store) :
    Prop where
  modules : ∀ x ∈ ts.zip targets, ∃ bytes text source,
    s.at? x.1.parts = some (.file bytes) ∧ Text.decode bytes = .ok text ∧
      (compile config (Jsx.componentName x.1.stem) [] text.unifyLineEnds).2 = .ok source ∧
      s'.at? x.2.parts = some (.file source.encode)
  others : ∀ place, (∀ target ∈ targets, place ≠ target.parts) → ∀ bytes,
    s'.at? place = some (.file bytes) ↔ s.at? place = some (.file bytes)

theorem BuiltAll.output_of_zip {s s' : Store} {ts targets : List Path}
    (h : BuiltAll config src out s ts targets s') {x : Path × Path} (hx : x ∈ ts.zip targets) :
    x.1.output src out config.extension = .ok x.2 := by
  induction h with
  | nil => cases hx
  | cons first _ ih =>
    rw [List.zip_cons_cons, List.mem_cons] at hx
    rcases hx with rfl | hx
    · exact first.output
    · exact ih hx

theorem BuiltAll.mirrored {s s' : Store} {ts targets : List Path}
    (h : BuiltAll config src out s ts targets s') (htree : s.Tree)
    (hown : ∀ t ∈ ts, ∀ target ∈ targets, t.parts ≠ target.parts)
    (hapart : targets.Pairwise fun p q => ¬ p.parts <+: q.parts ∧ ¬ q.parts <+: p.parts) :
    Mirrored config s ts targets s' := by
  refine ⟨fun x hx => ?_, fun place hplace bytes => h.files htree hplace bytes⟩
  have hout := h.output_of_zip hx
  have hdistinct : ts.Pairwise fun u v => ∀ p q, u.output src out config.extension = .ok p →
      v.output src out config.extension = .ok q → p.parts ≠ q.parts := by
    have hmap : (targets.map Except.ok).Pairwise fun a b : Except PathFault Path =>
        ∀ p q, a = .ok p → b = .ok q → p.parts ≠ q.parts := by
      refine List.pairwise_map.mpr (hapart.imp ?_)
      rintro p q ⟨hnot, -⟩ _ _ ⟨⟩ ⟨⟩ he
      exact hnot (he ▸ List.prefix_rfl)
    rw [← h.outputs] at hmap
    exact List.pairwise_map.mp hmap
  have hlater : ts.Pairwise fun u v => u = x.1 → ∀ other,
      v.output src out config.extension = .ok other → x.2.parts ≠ other.parts := by
    refine hdistinct.imp ?_
    rintro u v hne rfl other hother
    exact hne _ _ hout hother
  obtain ⟨bytes, source, hfile, hmodule, hthere⟩ :=
    h.written htree hown (List.of_mem_zip hx).1 hout hlater
  obtain ⟨text, htext, hcompile⟩ := Config.moduleOf_eq_ok hmodule
  exact ⟨bytes, text, source, hfile, htext, compile_ok_of_file [] hcompile, hthere⟩

/-- The directories of a build, or of watching: the complete paths of the two that are
given, or of one for both. -/
structure Directories (w : World) (src : Path) (out : Option Path) (S O : Path) : Prop where
  src_complete : w.cwd.resolve? src = some S
  out_complete : (out.map w.cwd.resolve?).getD (some S) = some O

namespace Directories

variable {w : World} {src S O : Path} {out : Option Path}

theorem src_straight (h : Directories w src out S O) : S.Straight :=
  Path.straight_of_resolve? h.src_complete

theorem out_straight (h : Directories w src out S O) : O.Straight := by
  have hout := h.out_complete
  cases out with
  | none => exact Option.some.inj hout ▸ h.src_straight
  | some out => exact Path.straight_of_resolve? hout

theorem run_src (h : Directories w src out S O) : (Session.resolve src).run w = .ok S w :=
  Session.run_resolve_of_some h.src_complete

theorem run_out (h : Directories w src out S O) :
    ((out.map Session.resolve).getD (pure S)).run w = .ok O w := by
  have hout := h.out_complete
  cases out with
  | none => exact Option.some.inj hout ▸ rfl
  | some out => exact Session.run_resolve_of_some hout

/-- The two directories that a session has found are the ones that are given. -/
theorem of_run {w₁ w₂ : World} (hsrc : (Session.resolve src).run w = .ok S w₁)
    (hout : ((out.map Session.resolve).getD (pure S)).run w₁ = .ok O w₂) :
    Directories w src out S O ∧ w₂ = w := by
  obtain ⟨hS, rfl⟩ := Session.resolve_eq_ok hsrc
  cases out with
  | none =>
    cases hout
    exact ⟨⟨hS, rfl⟩, rfl⟩
  | some out =>
    obtain ⟨hO, rfl⟩ := Session.resolve_eq_ok hout
    exact ⟨⟨hS, hO⟩, rfl⟩

/-- The directories are the same for as long as the current one is. -/
theorem of_cwd {w' : World} (h : Directories w src out S O) (hcwd : w'.cwd = w.cwd) :
    Directories w' src out S O := by
  obtain ⟨hsrc, hout⟩ := h
  rw [← hcwd] at hsrc hout
  exact ⟨hsrc, hout⟩

end Directories

/-- The files that a build takes for templates. -/
def World.picked (w : World) (config : Config) (src : Path) : List Path :=
  match Pattern.parse ('*' :: config.templateSuffix) with
  | .ok pattern => w.files.select w.cwd (w.cwd.resolve src) (.deep :: pattern)
  | .error _ => []

/-- Where a build puts modules: below the source directory if no other is given. -/
def World.outDirectory (w : World) (src : Path) (out : Option Path) : Path :=
  (out.map w.cwd.resolve).getD (w.cwd.resolve src)

theorem Directories.eq {w : World} {src S O : Path} {out : Option Path}
    (h : Directories w src out S O) : S = w.cwd.resolve src ∧ O = w.outDirectory src out := by
  obtain ⟨hsrc, hout⟩ := h
  obtain rfl := Path.resolve_of_resolve? hsrc
  refine ⟨rfl, ?_⟩
  cases out with
  | none => exact (Option.some.inj hout).symm
  | some out => exact (Path.resolve_of_resolve? hout).symm

/-- A build comes to the point where it goes through the templates. -/
structure Ready (config : Config) (src : Path) (out : Option Path) (w : World) : Prop where
  complete : Directories w src out (w.cwd.resolve src) (w.outDirectory src out)
  directory : w.files.lookup w.cwd (w.cwd.resolve src) = .ok .directory
  pattern : ∃ pattern, Pattern.parse ('*' :: config.templateSuffix) = .ok pattern

/-- The files that a plain suffix makes templates, each once, in order. -/
theorem World.picked_plain {w : World} {src : Path} {out : Option Path}
    (hready : Ready config src out w) (hsuffix : PlainSuffix config.templateSuffix) :
    (w.picked config src).Pairwise (fun t u => compare t u = .lt) ∧
      ∀ t, t ∈ w.picked config src ↔
        w.files.Listed (w.cwd.resolve src) config.templateSuffix t := by
  unfold picked
  rw [Pattern.parse_plain hsuffix]
  exact Store.select_plain (Path.resolve_straight _ src)
    (Store.isDirectory_of_lookup hready.directory) _

namespace Session

theorem run_templates {w : World} {src : Path} {out : Option Path} (h : Ready config src out w) :
    (templates (w.cwd.resolve src) config.templateSuffix).run w =
      .ok (w.picked config src) w := by
  obtain ⟨pattern, hpattern⟩ := h.pattern
  have hentry : (look (w.cwd.resolve src)).run w = .ok (some .directory) w := by
    rw [run_look, h.directory]
  unfold templates World.picked
  rw [hpattern]
  show (look (w.cwd.resolve src) >>= _).run w = _
  rw [bind_of_ok hentry]
  rfl

/-- What a build does once it goes through the templates. -/
theorem run_build {w : World} {src : Path} {out : Option Path} (h : Ready config src out w) :
    (build config src out).run w =
      match ((w.picked config src).mapM (buildOne config (w.cwd.resolve src)
        (w.outDirectory src out))).run w with
      | .ok targets w' =>
        (note (.built targets.length (w.outDirectory src out)) >>= fun _ =>
          pure ⟨w.outDirectory src out, targets.length, targets⟩).run w'
      | .error f w' => .error f w' := by
  have hentry : (look (w.cwd.resolve src)).run w = .ok (some .directory) w := by
    rw [run_look, h.directory]
  unfold build
  rw [bind_of_ok h.complete.run_src, bind_of_ok h.complete.run_out, bind_of_ok hentry,
    if_neg (not_not_intro rfl), bind_of_ok (run_templates h), EStateM.run_bind,
    run_foldlM_buildOne]
  cases ((w.picked config src).mapM (buildOne config (w.cwd.resolve src)
    (w.outDirectory src out))).run w with
  | error f w' => rfl
  | ok targets w' => simp only [Nat.zero_add, List.nil_append]

end Session

theorem exists_targets {α : Type} {ts : List α} {output : α → Except PathFault Path}
    (h : ∀ t ∈ ts, ∃ target, output t = .ok target) :
    ∃ targets : List Path, ts.map output = targets.map .ok := by
  induction ts with
  | nil => exact ⟨[], rfl⟩
  | cons t ts ih =>
    obtain ⟨⟨target, hout⟩, hrest⟩ := List.forall_mem_cons.mp h
    obtain ⟨targets, htargets⟩ := ih hrest
    exact ⟨target :: targets, by rw [List.map_cons, List.map_cons, hout, htargets]⟩

theorem ok_injective : Function.Injective (Except.ok : Path → Except PathFault Path) :=
  fun _ _ h => Except.ok.inj h

namespace Store.Listed

variable {s : Store} {suffix : Text}

theorem straight (h : s.Listed src suffix t) (hs : s.Straight) (hsrc : src.Straight) :
    t.Straight := by
  obtain ⟨bytes, hfile⟩ := h.file
  refine ⟨h.root ▸ hsrc.1, hs _ ?_⟩
  rw [hfile]
  exact nofun

theorem exists_output (h : s.Listed src suffix t) (hne : suffix ≠ [])
    (hallowed : Path.suffixAllowed config.extension) :
    ∃ target, t.output src out config.extension = .ok target := by
  obtain ⟨names, hnames, hparts⟩ := h.below
  have hname : t.name ≠ [] := by
    intro hnil
    have hends := h.ends
    rw [hnil, List.suffix_nil] at hends
    exact hne hends
  exact ⟨_, Path.output_of_below h.root hparts hnames hname hallowed⟩

end Store.Listed

/-- What comes of a build below an existing directory: the modules of all its templates are
written, or those of the templates before one that stops the build. -/
theorem Session.build_cases {w : World} {src S O : Path} {out : Option Path}
    (hnames : w.files.Straight) (hdirs : Directories w src out S O)
    (hdir : w.files.isDirectory w.cwd S = true) (hfault : config.fault? = none)
    (hallowed : Path.suffixAllowed config.extension)
    (hsuffix : PlainSuffix config.templateSuffix) :
    ∃ ts : List Path, ts.Pairwise (fun t u => compare t u = .lt) ∧
      (∀ t, t ∈ ts ↔ w.files.Listed S config.templateSuffix t) ∧
      (∀ t ∈ ts, t.Straight ∧ ∃ target, t.output S O config.extension = .ok target) ∧
      ((∃ targets w', BuiltAll config S O w.files ts targets w'.files ∧ w'.host = w.host ∧
        (build config src out).run w =
          (note (.built targets.length O) >>= fun _ => pure ⟨O, targets.length, targets⟩).run w') ∨
      ∃ (before : List Path) (t : Path) (after targets : List Path) (w₁ : World) (f : Failure)
        (w' : World), ts = before ++ t :: after ∧ w₁.host = w.host ∧
        BuiltAll config S O w.files before targets w₁.files ∧
        (build config src out).run w = .error f w' ∧
        ((w₁.moduleOf config t = .error f ∧ w'.files = w₁.files) ∨
          ∃ target, t.output S O config.extension = .ok target ∧ Unplaced w₁ target f)) := by
  have hSstraight := hdirs.src_straight
  have hOstraight := hdirs.out_straight
  obtain ⟨rfl, rfl⟩ := hdirs.eq
  have hready : Ready config src out w :=
    ⟨hdirs, Store.lookup_of_isDirectory hdir, _, Pattern.parse_plain hsuffix⟩
  obtain ⟨hordered, hmem⟩ := World.picked_plain hready hsuffix
  have hbuild := run_build hready
  generalize w.picked config src = ts at hordered hmem hbuild
  obtain ⟨hextension, hdot⟩ := Config.dots hfault
  have hstraight : ∀ t ∈ ts, t.Straight := fun t ht =>
    ((hmem t).mp ht).straight hnames hSstraight
  have hne : config.templateSuffix ≠ [] := by
    intro hnil
    rw [hnil] at hdot
    cases hdot
  have houtput : ∀ t ∈ ts, ∃ target,
      t.output (w.cwd.resolve src) (w.outDirectory src out) config.extension = .ok target :=
    fun t ht => ((hmem t).mp ht).exists_output hne hallowed
  refine ⟨ts, hordered, hmem, fun t ht => ⟨hstraight t ht, houtput t ht⟩, ?_⟩
  have htargets : ∀ t ∈ ts, ∃ target,
      t.output (w.cwd.resolve src) (w.outDirectory src out) config.extension = .ok target ∧
        target.Straight := by
    intro t ht
    obtain ⟨target, hout⟩ := houtput t ht
    exact ⟨target, hout, Path.output_straight hOstraight (hstraight t ht).2 hextension hout⟩
  rcases mapM_buildOne_cases htargets hstraight w with
    ⟨targets, w', hrun, hbuilt⟩ |
    ⟨before, t, after, targets, w₁, f, w', hsplit, hhost, hbuilt, hrun, hstop⟩
  · rw [hrun] at hbuild
    have hhost := (Keeps.of_ok (Keeps.mapM fun t _ => steady_buildOne config _ _ t) hrun).host
    exact .inl ⟨targets, w', hbuilt, hhost, hbuild⟩
  · rw [hrun] at hbuild
    exact .inr ⟨before, t, after, targets, w₁, f, w', hsplit, hhost, hbuilt, hbuild, hstop⟩

/-- Where the outputs go, once it is known how far a build came. -/
theorem targets_split {before after targets made : List Path} {t : Path}
    {output : Path → Except PathFault Path}
    (h : (before ++ t :: after).map output = targets.map .ok)
    (hmade : before.map output = made.map .ok) :
    ∃ target rest, output t = .ok target ∧ targets = made ++ target :: rest ∧
      made = targets.take before.length := by
  rw [List.map_append, List.map_cons, hmade] at h
  obtain ⟨first, others, rfl, hfirst, hothers⟩ := List.map_eq_append_iff.mp h.symm
  obtain rfl := ok_injective.list_map hfirst
  obtain ⟨target, rest, rfl, hout, -⟩ := List.map_eq_cons_iff.mp hothers
  have hlen := congrArg List.length hmade
  rw [List.length_map, List.length_map] at hlen
  exact ⟨target, rest, hout.symm, rfl, (List.take_left' hlen.symm).symm⟩

/-- A build writes the modules of all templates, in order, counts them and touches no other
file; or it fails as the first template without a module does, and has written the modules of
those before it. -/
theorem build_mirrors {w : World} {src S O : Path} {out : Option Path} {ts : List Path}
    (htree : w.files.Tree) (hnames : w.files.Straight) (hshown : w.host.ShowsAll)
    (hdirs : Directories w src out S O) (hdir : w.files.isDirectory w.cwd S = true)
    (hfault : config.fault? = none) (hallowed : Path.suffixAllowed config.extension)
    (hsuffix : PlainSuffix config.templateSuffix)
    (hordered : ts.Pairwise fun t u => compare t u = .lt)
    (hmem : ∀ t, t ∈ ts ↔ w.files.Listed S config.templateSuffix t) :
    ∃ targets : List Path, ts.map (·.output S O config.extension) = targets.map .ok ∧
      (w.files.RoomForAll targets → (∀ t ∈ ts, ∀ target ∈ targets, t.parts ≠ target.parts) →
        (∃ w', (Session.build config src out).run w = .ok ⟨O, ts.length, targets⟩ w' ∧
          Mirrored config w.files ts targets w'.files) ∨
        ∃ before t after f w', ts = before ++ t :: after ∧ w.moduleOf config t = .error f ∧
          (Session.build config src out).run w = .error f w' ∧
          Mirrored config w.files before (targets.take before.length) w'.files) := by
  obtain ⟨found, hfound, hmemFound, htemplates, hbuild⟩ :=
    Session.build_cases hnames hdirs hdir hfault hallowed hsuffix
  rw [Path.eq_of_ordered hfound hordered fun t => (hmemFound t).trans (hmem t).symm]
    at htemplates hbuild
  obtain ⟨targets, htargets⟩ := exists_targets fun t ht => (htemplates t ht).2
  refine ⟨targets, htargets, fun hroom hown => ?_⟩
  rcases hbuild with ⟨made, w', hbuilt, hhost, hrun⟩ |
    ⟨before, t, after, made, w₁, f, w', rfl, hhost, hbuilt, hrun, hstop⟩
  · obtain rfl : made = targets :=
      ok_injective.list_map (hbuilt.outputs.symm.trans htargets)
    have hlen := congrArg List.length htargets
    rw [List.length_map, List.length_map] at hlen
    rw [Session.bind_of_ok (Session.run_note_of_shown (hhost ▸ hshown _)), ← hlen] at hrun
    exact .inl ⟨_, hrun, hbuilt.mirrored htree hown hroom.apart⟩
  · obtain ⟨target, rest, hout, rfl, hmade⟩ := targets_split htargets hbuilt.outputs
    obtain ⟨hapart, -, hlater⟩ := List.pairwise_append.mp hroom.apart
    rcases hstop with ⟨hmodule, hsame⟩ | ⟨other, hother, hunplaced⟩
    · refine .inr ⟨before, t, after, f, w', rfl, ?_, hrun, ?_⟩
      · -- the template is still what it was at the start
        have ht : t ∈ before ++ t :: after := by simp
        obtain ⟨bytes, hfile⟩ := ((hmem t).mp ht).file
        have hstill := (hbuilt.files htree (fun p hp => hown t ht p (by simp [hp])) bytes).mpr hfile
        rw [← World.moduleOf_congr htree (hbuilt.tree htree) (htemplates t ht).1 hhost hfile hstill]
        exact hmodule
      · rw [← hmade, hsame]
        refine hbuilt.mirrored htree (fun u hu p hp => ?_) hapart
        exact hown u (by simp [hu]) p (by simp [hp])
    · cases hunplaced with
      | unshown hg =>
        rw [hhost, hshown] at hg
        cases hg
      | refused hf hnoroom =>
        -- there was room for the module at the start and there still is
        obtain rfl := Except.ok.inj (hother.symm.trans hout)
        refine absurd (hbuilt.room (hroom.room _ (by simp)) fun p hp => ?_) hnoroom
        exact hlater p hp _ List.mem_cons_self

section Pair

def pairEntries : List (Place × Entry) :=
  [(["s"], .directory), (["s", "a.html"], .file rule), (["s", "a.jsx"], .file []),
    (["s", "b"], .directory), (["s", "b", "c.html"], .file rule), (["s", "note"], .file rule)]

/-- Two templates, the first with an old module beside it. -/
def pairWorld : World :=
  { cwd := ⟨.slash, []⟩, files := Std.TreeMap.ofList pairEntries compare }

def pairTemplates : List Path := [⟨.slash, ["s", "a.html"]⟩, ⟨.slash, ["s", "b", "c.html"]⟩]

def pairTargets : List Path := [⟨.slash, ["s", "a.jsx"]⟩, ⟨.slash, ["s", "b", "c.jsx"]⟩]

theorem pairWorld_tree : pairWorld.files.Tree := by decide +kernel

theorem mem_pairTemplates (t : Path) :
    t ∈ pairTemplates ↔ pairWorld.files.Listed ⟨.slash, ["s"]⟩ ".html" t := by
  constructor
  · intro ht
    rcases List.mem_pair.mp ht with rfl | rfl
    · exact ⟨rfl, ⟨["a.html"], by simp, rfl⟩, by decide, rule, by decide +kernel⟩
    · exact ⟨rfl, ⟨["b", "c.html"], by simp, rfl⟩, by decide, rule, by decide +kernel⟩
  · rintro ⟨hroot, -, hends, bytes, hfile⟩
    have hall : ∀ x ∈ pairWorld.files.toList, x.2 ≠ .directory →
        ".html" <:+ (⟨.slash, x.1⟩ : Path).name → (⟨.slash, x.1⟩ : Path) ∈ pairTemplates := by
      decide +kernel
    have hself : t = ⟨.slash, t.parts⟩ := by
      rw [← show t.root = .slash from hroot]
    have hmem := Store.mem_toList_of_at? (Store.place_ne_nil_of_file hfile) hfile
    rw [hself]
    exact hall _ hmem nofun (hself ▸ hends)

theorem pairWorld_room : pairWorld.files.RoomForAll pairTargets := by
  refine ⟨fun p hp => ?_, by decide⟩
  rcases List.mem_pair.mp hp with rfl | rfl
  · have hdir : pairWorld.files.at? ["s"] = some .directory := by decide +kernel
    exact ⟨by decide, by decide, by decide, fun q hq => pairWorld_tree.no_file_above hdir hq,
      by decide +kernel⟩
  · have hdir : pairWorld.files.at? ["s", "b"] = some .directory := by decide +kernel
    exact ⟨by decide, by decide, by decide, fun q hq => pairWorld_tree.no_file_above hdir hq,
      by decide +kernel⟩

theorem pairWorld_mirrored :
    pairWorld.files.RoomForAll pairTargets ∧
      ∃ w', (Session.build {} ⟨.slash, ["s"]⟩ none).run pairWorld =
          .ok ⟨⟨.slash, ["s"]⟩, 2, pairTargets⟩ w' ∧
        Mirrored {} pairWorld.files pairTemplates pairTargets w'.files := by
  refine ⟨pairWorld_room, ?_⟩
  obtain ⟨targets, htargets, hbuild⟩ := @build_mirrors {} pairWorld ⟨.slash, ["s"]⟩ ⟨.slash, ["s"]⟩
    ⟨.slash, ["s"]⟩ none pairTemplates pairWorld_tree (by decide +kernel) (fun _ => rfl)
    ⟨by decide, by decide⟩ (by decide +kernel) (by decide) (by decide)
    ⟨by decide, by decide, by decide, by decide⟩ (by decide) mem_pairTemplates
  obtain rfl : targets = pairTargets :=
    ok_injective.list_map (htargets.symm.trans (by decide +kernel))
  rcases hbuild pairWorld_room (by decide) with hdone | ⟨_, _, _, f, w', _, _, hrun, _⟩
  · exact hdone
  · have hok : ((Session.build {} ⟨.slash, ["s"]⟩ none).run' pairWorld).isSome = true := by
      decide +kernel
    unfold EStateM.run' at hok
    rw [hrun] at hok
    cases hok

def dottedEntries : List (Place × Entry) :=
  [(["s"], .directory), (["s", "d."], .directory), (["s", "d.", "x.html"], .file rule)]

/-- A directory whose name, with that of a file in it, ends in a suffix with a slash. -/
def dottedWorld : World :=
  { cwd := ⟨.slash, []⟩, files := Std.TreeMap.ofList dottedEntries compare }

/-- A suffix with a slash picks a file although no name ends in it. -/
theorem slashed_suffix_not_mirrored :
    Config.fault? { templateSuffix := "./x.html" } = none ∧
      (∀ t, ¬ dottedWorld.files.Listed ⟨.slash, ["s"]⟩ "./x.html" t) ∧
      (Session.build { templateSuffix := "./x.html" } ⟨.slash, ["s"]⟩ none).run' dottedWorld =
        some ⟨⟨.slash, ["s"]⟩, 1, [⟨.slash, ["s", "d.", "x.jsx"]⟩]⟩ := by
  refine ⟨by decide, ?_, by decide +kernel⟩
  rintro t ⟨hroot, -, hends, bytes, hfile⟩
  have hall : ∀ x ∈ dottedWorld.files.toList,
      ¬ ("./x.html" : Text) <:+ (⟨.slash, x.1⟩ : Path).name := by
    decide +kernel
  have hself : t = ⟨.slash, t.parts⟩ := by
    rw [← show t.root = .slash from hroot]
  have hmem := Store.mem_toList_of_at? (Store.place_ne_nil_of_file hfile) hfile
  exact hall _ hmem (hself ▸ hends)

end Pair

end JsxTemplate
