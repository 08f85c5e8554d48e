import JsxTemplate.Proofs.Building
import JsxTemplate.Proofs.Growing
import Mathlib.Data.List.Perm.Subperm

/-!
# Building twice

A second build does what the first has done as long as it finds the same templates. It
need not: a module whose name looks like that of a template is a template for the next
build, and it may have been written over one.
-/

namespace JsxTemplate

variable {host : Host} {config : Config} {src out cwd t target : Path}

/-! ## What a build has written -/

/-- The module of a template has been written, and this could be said. -/
structure Emitted (host : Host) (config : Config) (src out cwd : Path) (s : Store)
    (t target : Path) (s' : Store) : Prop where
  output : t.output src out config.extension = .ok target
  no_zero : t.hasZero = false
  shown : host.refuses (.compiled t target) = none
  laid : ∃ bytes source, s.read cwd t = .ok bytes ∧ host.moduleOf config t bytes = .ok source ∧
    s.Laid cwd target source.encode s'

/-- The modules of templates have been written, one after the other. -/
inductive EmittedAll (host : Host) (config : Config) (src out cwd : Path) :
    Store → List Path → List Path → Store → Prop
  | nil {s : Store} : EmittedAll host config src out cwd s [] [] s
  | cons {s s₁ s' : Store} {t target : Path} {ts targets : List Path}
    (first : Emitted host config src out cwd s t target s₁)
    (rest : EmittedAll host config src out cwd s₁ ts targets s') :
    EmittedAll host config src out cwd s (t :: ts) (target :: targets) s'

namespace Session

variable {w w' : World} {s' : Store} {ts targets : List Path} {source : Text}

theorem buildOne_eq_ok (h : (buildOne config src out t).run w = .ok target w') :
    Emitted w.host config src out w.cwd w.files t target w'.files := by
  cases hout : t.output src out config.extension with
  | error f =>
    unfold buildOne at h
    rw [hout] at h
    cases h
  | ok made =>
    obtain ⟨notices, hcompile⟩ := run_compileFile config t made w
    cases hmodule : w.moduleOf config t with
    | error f =>
      rw [hmodule] at hcompile
      obtain ⟨g, w₁, hrun, -⟩ := buildOne_of_error hout hcompile
      cases hrun.symm.trans h
    | ok source =>
      rw [hmodule] at hcompile
      cases hemit : (emit t made source).run { w with notices := w.notices ++ notices } with
      | error f w₁ =>
        obtain ⟨g, w₂, hrun, -⟩ := buildOne_of_error hout (hcompile.trans hemit)
        cases hrun.symm.trans h
      | ok written w₁ =>
        cases (buildOne_of_ok hout (hcompile.trans hemit)).symm.trans h
        obtain ⟨hshown, -, hlaid⟩ := emit_eq_ok hemit
        unfold World.moduleOf at hmodule
        split at hmodule
        · cases hmodule
        · next hzero =>
          split at hmodule
          · cases hmodule
          · next bytes hread =>
            exact ⟨hout, Bool.eq_false_iff.mpr hzero, hshown, bytes, source, hread, hmodule, hlaid⟩

theorem exists_buildOne (h : Emitted w.host config src out w.cwd w.files t target s') :
    ∃ w', (buildOne config src out t).run w = .ok target w' ∧ w'.files = s' := by
  obtain ⟨bytes, source, hread, hmodule, hlaid⟩ := h.laid
  obtain ⟨notices, hcompile⟩ := run_compileFile config t target w
  have hsource : w.moduleOf config t = .ok source := by
    unfold World.moduleOf
    rw [h.no_zero, hread]
    exact hmodule
  rw [hsource] at hcompile
  obtain ⟨w', hemit, hfiles⟩ :=
    @exists_emit { w with notices := w.notices ++ notices } t target source s' h.shown hlaid
  exact ⟨w', buildOne_of_ok h.output (hcompile.trans hemit), hfiles⟩

theorem mapM_buildOne_eq_ok (h : (ts.mapM (buildOne config src out)).run w = .ok targets w') :
    EmittedAll w.host config src out w.cwd w.files ts targets w'.files := by
  induction ts generalizing w targets with
  | nil =>
    cases h
    exact .nil
  | cons t ts ih =>
    rw [List.mapM_cons] at h
    obtain ⟨target, w₁, hfirst, h⟩ := run_bind_eq_ok h
    obtain ⟨others, w₂, hrest, h⟩ := run_bind_eq_ok h
    cases h
    obtain ⟨hcwd, hhost⟩ := (steady_buildOne config src out t).of_ok hfirst
    have hall := ih hrest
    rw [hcwd, hhost] at hall
    exact .cons (buildOne_eq_ok hfirst) hall

theorem exists_mapM_buildOne {host : Host} {s : Store}
    (h : EmittedAll host config src out cwd s ts targets s') :
    ∀ {w : World}, w.host = host → w.cwd = cwd → w.files = s →
      ∃ w', (ts.mapM (buildOne config src out)).run w = .ok targets w' ∧ w'.files = s' := by
  induction h with
  | nil => exact fun {w} _ _ hfiles => ⟨w, rfl, hfiles⟩
  | cons first rest ih =>
    intro w hhost hcwd hfiles
    subst hhost hcwd hfiles
    obtain ⟨w₁, hfirst, hfiles₁⟩ := exists_buildOne first
    obtain ⟨hcwd₁, hhost₁⟩ := (steady_buildOne config src out _).of_ok hfirst
    obtain ⟨w', hrest, hfiles'⟩ := ih hhost₁ hcwd₁ hfiles₁
    refine ⟨w', ?_, hfiles'⟩
    rw [List.mapM_cons, bind_of_ok hfirst, bind_of_ok hrest]
    rfl

theorem ready_of_build {src : Path} {out : Option Path} {summary : BuildSummary}
    (h : (build config src out).run w = .ok summary w') : Ready config src out w := by
  obtain ⟨S, w₁, hsrc, h⟩ := run_bind_eq_ok h
  obtain ⟨O, w₂, hout, h⟩ := run_bind_eq_ok h
  obtain ⟨hdirs, rfl⟩ := Directories.of_run hsrc hout
  obtain ⟨rfl, rfl⟩ := hdirs.eq
  obtain ⟨entry, w₃, hentry, h⟩ := run_bind_eq_ok h
  split at h
  · cases h
  · next hdir =>
    obtain rfl := not_not.mp hdir
    obtain ⟨ts, w₄, htemplates, -⟩ := run_bind_eq_ok h
    obtain ⟨pattern, w₅, hpattern, -⟩ := run_bind_eq_ok htemplates
    refine ⟨hdirs, lookup_of_look hentry, ?_⟩
    cases hparse : Pattern.parse ('*' :: config.templateSuffix) with
    | ok pattern => exact ⟨pattern, rfl⟩
    | error f =>
      rw [hparse] at hpattern
      cases hpattern

/-- A build that succeeds has written the modules of the files it took for templates. -/
theorem build_eq_ok {src : Path} {out : Option Path} {summary : BuildSummary}
    (h : (build config src out).run w = .ok summary w') :
    summary = ⟨w.outDirectory src out, summary.targets.length, summary.targets⟩ ∧
      w.host.refuses (.built summary.targets.length (w.outDirectory src out)) = none ∧
      EmittedAll w.host config (w.cwd.resolve src) (w.outDirectory src out) w.cwd w.files
        (w.picked config src) summary.targets w'.files := by
  rw [run_build (ready_of_build h)] at h
  split at h
  · next targets w₁ hrun =>
    obtain ⟨_, w₂, hnote, hdone⟩ := run_bind_eq_ok h
    cases hdone
    obtain ⟨hshown, rfl⟩ := note_eq_ok hnote
    rw [(Keeps.of_ok (Keeps.mapM fun t _ => steady_buildOne config _ _ t) hrun).host] at hshown
    have hall := mapM_buildOne_eq_ok hrun
    exact ⟨rfl, hshown, hall⟩
  · cases h

theorem exists_build {src : Path} {out : Option Path} (hready : Ready config src out w)
    (hshown : w.host.refuses (.built targets.length (w.outDirectory src out)) = none)
    (h : EmittedAll w.host config (w.cwd.resolve src) (w.outDirectory src out) w.cwd w.files
      (w.picked config src) targets s') :
    ∃ w', (build config src out).run w =
        .ok ⟨w.outDirectory src out, targets.length, targets⟩ w' ∧ w'.files = s' := by
  obtain ⟨w₁, hrun, hfiles⟩ := exists_mapM_buildOne h rfl rfl rfl
  rw [← (Keeps.of_ok (Keeps.mapM fun t _ => steady_buildOne config _ _ t) hrun).host] at hshown
  rw [run_build hready, hrun]
  exact ⟨_, bind_of_ok (run_note_of_shown hshown), hfiles⟩

end Session

/-! ## The second build follows the first -/

open Store (Grown)

theorem Emitted.grown {s s' : Store} (h : Emitted host config src out cwd s t target s') :
    Grown s s' := by
  obtain ⟨bytes, source, -, -, hlaid⟩ := h.laid
  exact hlaid.grown

theorem EmittedAll.grown {s s' : Store} {ts targets : List Path}
    (h : EmittedAll host config src out cwd s ts targets s') : Grown s s' := by
  induction h with
  | nil => exact .refl _
  | cons first _ ih => exact first.grown.trans ih

theorem Ready.grown {w w' : World} {src : Path} {out : Option Path}
    (h : Ready config src out w) (hcwd : w'.cwd = w.cwd) (hgrown : Grown w.files w'.files) :
    Ready config src out w' := by
  obtain ⟨hdirs, hdir, hpattern⟩ := h
  have hdirs' := hdirs.of_cwd hcwd
  obtain ⟨hsrc, hout⟩ := hdirs'.eq
  rw [hsrc, hout] at hdirs'
  rw [← hcwd] at hdir
  exact ⟨hdirs', hgrown.lookup_directory hdir, hpattern⟩

/-- What was a template is one. -/
theorem World.picked_subset {w w' : World} (hcwd : w'.cwd = w.cwd)
    (hgrown : Grown w.files w'.files) (config : Config) (src : Path) :
    w.picked config src ⊆ w'.picked config src := by
  unfold picked
  rw [hcwd]
  split
  · exact hgrown.select _ _ _
  · exact List.nil_subset _

theorem World.picked_ordered (w : World) (config : Config) (src : Path) :
    (w.picked config src).Pairwise fun p q => compare p q = .lt := by
  unfold picked
  split
  · exact Store.select_ordered _ _ _ _
  · exact List.Pairwise.nil

theorem EmittedAll.length_eq {s s' : Store} {ts targets : List Path}
    (h : EmittedAll host config src out cwd s ts targets s') : ts.length = targets.length := by
  induction h with
  | nil => rfl
  | cons _ _ ih => rw [List.length_cons, List.length_cons, ih]

/-- When the first build has come from `s` to `a` on its way to `s'`, the second, which
begins with `s'`, has come to `b`: what stands at a place is what the first build has
there, or neither of them has been there yet. -/
structure Follows (s s' a b : Store) : Prop where
  from_start : Grown s a
  to_end : Grown a s'
  grown : Grown s' b
  places : ∀ q, b.at? q = a.at? q ∨ a.at? q = s.at? q ∧ b.at? q = s'.at? q

/-- A template that the first build leaves as it was is read by both as the same. -/
theorem Follows.read {s s' a b : Store} {bytes : Text.Bytes} (h : Follows s s' a b)
    (hkept : s'.read cwd t = s.read cwd t) (hread : a.read cwd t = .ok bytes) :
    b.read cwd t = .ok bytes := by
  obtain ⟨place, hplace, hat⟩ := Store.exists_place_of_read hread
  have hlocate := (h.to_end.trans h.grown).locate hplace
  rcases h.places place with hsame | ⟨hold, hnew⟩
  · exact Store.read_of_place hlocate (hsame.trans hat)
  · -- neither build has been there: the place is as at the start, and as in the end
    obtain ⟨last, hlast⟩ := h.to_end.at?_file hat
    have hstart : s.read cwd t = .ok last := by
      rw [← hkept]
      exact Store.read_of_place (h.to_end.locate hplace) hlast
    obtain ⟨place', hplace', hfirst⟩ := Store.exists_place_of_read hstart
    cases (h.from_start.locate hplace').symm.trans hplace
    cases hat.symm.trans (hold.trans hfirst)
    exact Store.read_of_place hlocate (hnew.trans hlast)

/-- What the first build does for a template the second can do too. -/
theorem Emitted.again {s s' a a' b : Store} (h : Emitted host config src out cwd a t target a')
    (hfollows : Follows s s' a b) (hend : Grown a' s')
    (hkept : s'.read cwd t = s.read cwd t) :
    ∃ b', Emitted host config src out cwd b t target b' ∧ Follows s s' a' b' := by
  obtain ⟨bytes, source, hread, hmodule, hlaid⟩ := h.laid
  obtain ⟨place, hplace, hhere, helsewhere⟩ := hlaid.effect
  obtain ⟨hagain, hfile⟩ := hlaid.again (hend.trans hfollows.grown) hplace
  have hgrown := Store.grown_insert_file hfile source.encode
  refine ⟨b.insert place (.file source.encode), ⟨h.output, h.no_zero, h.shown, bytes, source,
    hfollows.read hkept hread, hmodule, hagain⟩, hfollows.from_start.trans hlaid.grown, hend,
    hfollows.grown.trans hgrown, fun q => ?_⟩
  rw [Store.at?_insert (Store.place_ne_nil hfile)]
  split
  · next hq => exact .inl (by rw [hq, hhere])
  · next hq =>
    rcases helsewhere q hq with hsame | ⟨-, hdir⟩
    · rw [hsame]
      exact hfollows.places q
    · -- a directory that the first build makes was there when the second began
      rw [hdir, (hend.trans hfollows.grown).at?_directory hdir]
      exact .inl rfl

theorem EmittedAll.again {s s' a a' b : Store} {ts targets : List Path}
    (h : EmittedAll host config src out cwd a ts targets a') (hfollows : Follows s s' a b)
    (hend : Grown a' s') (hkept : ∀ t ∈ ts, s'.read cwd t = s.read cwd t) :
    ∃ b', EmittedAll host config src out cwd b ts targets b' ∧ Follows s s' a' b' := by
  induction h generalizing b with
  | nil => exact ⟨b, .nil, hfollows⟩
  | cons first rest ih =>
    obtain ⟨hfirst, hrest⟩ := List.forall_mem_cons.mp hkept
    obtain ⟨b₁, hb₁, hfollows₁⟩ := first.again hfollows (rest.grown.trans hend) hfirst
    obtain ⟨b', hb', hfollows'⟩ := ih hfollows₁ hend hrest
    exact ⟨b', .cons hb₁ hb', hfollows'⟩

/-- A build whose templates are as they were can be done again, and changes nothing then. -/
theorem EmittedAll.rerun {s s' : Store} {ts targets : List Path}
    (h : EmittedAll host config src out cwd s ts targets s')
    (hkept : ∀ t ∈ ts, s'.read cwd t = s.read cwd t) :
    ∃ s'', EmittedAll host config src out cwd s' ts targets s'' ∧ ∀ q, s''.at? q = s'.at? q := by
  have hstart : Follows s s' s s' := ⟨.refl s, h.grown, .refl s', fun q => .inr ⟨rfl, rfl⟩⟩
  obtain ⟨s'', hs'', hfollows⟩ := h.again hstart (.refl s') hkept
  refine ⟨s'', hs'', fun q => ?_⟩
  rcases hfollows.places q with hsame | ⟨-, hsame⟩
  · exact hsame
  · exact hsame

/-! ## Templates that stay as they are -/

/-- The files form a tree without double dots. -/
structure World.Sound (w : World) : Prop where
  tree : w.files.Tree
  names : w.files.Straight

/-- No place below one directory is below the other. -/
def Path.Apart (p q : Path) : Prop := ¬ p.parts <+: q.parts ∧ ¬ q.parts <+: p.parts

instance (p q : Path) : Decidable (p.Apart q) := inferInstanceAs (Decidable (_ ∧ _))

/-- The end of a text from its last dot on. -/
def Text.fromLastDot (s : Text) : Text := ((Text.cutLast? (· == '.') s).map Prod.snd).getD []

theorem Text.fromLastDot_spec {s : Text} (h : s.fromLastDot ≠ []) :
    ∃ x, s.fromLastDot = '.' :: x ∧ '.' ∉ x ∧ '.' :: x <:+ s := by
  unfold fromLastDot at h ⊢
  cases hcut : Text.cutLast? (· == '.') s with
  | none =>
    rw [hcut] at h
    exact absurd rfl h
  | some found =>
    obtain ⟨before, rest⟩ := found
    obtain ⟨c, after, rfl, hc, hafter⟩ := Text.cutLast?_eq_some hcut
    obtain rfl := beq_iff_eq.mp hc
    refine ⟨after, rfl, fun hmem => ?_, ?_⟩
    · exact absurd rfl (beq_eq_false_iff_ne.mp (hafter '.' hmem))
    · rw [Text.append_of_cutLast? hcut]
      exact List.suffix_append _ _

/-- The modules cannot be taken for templates: they have another suffix, or they go
elsewhere. -/
def Distinct (config : Config) (src out : Path) : Prop :=
  ¬ config.templateSuffix.fromLastDot <:+ config.extension ∨ src.Apart out

instance (config : Config) (src out : Path) : Decidable (Distinct config src out) :=
  inferInstanceAs (Decidable (_ ∨ _))

variable {s s' : Store} {ts targets : List Path} {p : Path}

/-- The module of a template is not written to the place of a template. -/
theorem Distinct.place_ne_output (h : Distinct config src out) (hfault : config.fault? = none)
    (ht : s.Listed src config.templateSuffix t) (hp : s'.Listed src config.templateSuffix p)
    (hout : t.output src out config.extension = .ok target) : p.parts ≠ target.parts := by
  intro hplace
  rcases h with hends | ⟨hbelow, habove⟩
  · have hword : config.templateSuffix.fromLastDot ≠ [] := fun hnil =>
      hends (hnil ▸ List.nil_suffix)
    obtain ⟨x, hword, hx, hsuffix⟩ := Text.fromLastDot_spec hword
    refine hends (hword ▸ Path.suffix_extension_of_output hx (Config.dots hfault).1 hout ?_)
    rw [Path.name, ← hplace]
    exact hsuffix.trans hp.ends
  · -- a place of both would be below both directories
    obtain ⟨below, -, hparts, -, -, rfl⟩ := Path.output_eq_ok hout
    obtain ⟨names, hne, hnames⟩ := ht.below
    obtain rfl := List.append_cancel_left (hparts.symm.trans hnames)
    obtain ⟨names', -, hparts'⟩ := hp.below
    rw [hparts', List.dropLast_append_of_ne_nil hne, List.append_assoc] at hplace
    have hsrc : src.parts <+: src.parts ++ names' := List.prefix_append _ _
    have hdir : out.parts <+: src.parts ++ names' := hplace ▸ List.prefix_append _ _
    rcases List.prefix_or_prefix_of_prefix hsrc hdir with h | h
    · exact hbelow h
    · exact habove h

theorem Emitted.built (h : Emitted host config src out cwd s t target s') (ht : t.Straight)
    (htarget : target.Straight) : Built config src out s t target s' := by
  obtain ⟨bytes, source, hread, hmodule, hlaid⟩ := h.laid
  exact ⟨h.output, bytes, source, Store.read_eq_ok ht hread, Host.moduleOf_eq_ok hmodule,
    hlaid.placed htarget⟩

theorem EmittedAll.builtAll (h : EmittedAll host config src out cwd s ts targets s')
    (hfault : config.fault? = none) (hout : out.Straight) (hts : ∀ t ∈ ts, t.Straight) :
    BuiltAll config src out s ts targets s' := by
  induction h with
  | nil => exact .nil
  | cons first _ ih =>
    obtain ⟨ht, hts⟩ := List.forall_mem_cons.mp hts
    have htarget := Path.output_straight hout ht.2 (Config.dots hfault).1 first.output
    exact .cons (first.built ht htarget) (ih hts)

/-- The templates of the next build are those of this one, and they are as they were. -/
def SameTemplates (config : Config) (src : Path) (w w' : World) : Prop :=
  ∀ t ∈ w'.picked config src,
    t ∈ w.picked config src ∧ w'.files.read w'.cwd t = w.files.read w.cwd t

theorem sameTemplates_of_distinct {w w' : World} {src : Path} {out : Option Path}
    {summary : BuildSummary} (hsound : w.Sound) (hfault : config.fault? = none)
    (hsuffix : PlainSuffix config.templateSuffix)
    (hdistinct : Distinct config (w.cwd.resolve src) (w.outDirectory src out))
    (hrun : (Session.build config src out).run w = .ok summary w') :
    SameTemplates config src w w' := by
  have hready := Session.ready_of_build hrun
  obtain ⟨-, -, hall⟩ := Session.build_eq_ok hrun
  have hcwd := ((Session.steady_build config src out).of_ok hrun).1
  have hready' := hready.grown hcwd hall.grown
  have hlisted := (World.picked_plain hready hsuffix).2
  have hlisted' := (World.picked_plain hready' hsuffix).2
  have hsrc := Path.resolve_straight w.cwd src
  have hstraight : ∀ t ∈ w.picked config src, t.Straight := fun t ht =>
    ((hlisted t).mp ht).straight hsound.names hsrc
  have hbuilt := hall.builtAll hfault (Path.outDirectory_straight hsrc rfl) hstraight
  intro p hp
  rw [hlisted', hcwd] at hp
  obtain ⟨bytes, hfile⟩ := hp.file
  have hstill : w.files.at? p.parts = some (.file bytes) := by
    refine (hbuilt.files hsound.tree (fun target htarget => ?_) bytes).mp hfile
    obtain ⟨t, ht, hout⟩ := hbuilt.exists_template htarget
    exact hdistinct.place_ne_output hfault ((hlisted t).mp ht) hp hout
  have hmem : w.files.Listed (w.cwd.resolve src) config.templateSuffix p :=
    ⟨hp.root, hp.below, hp.ends, bytes, hstill⟩
  refine ⟨(hlisted p).mpr hmem, ?_⟩
  exact hsound.tree.read_eq w.cwd w'.cwd (hbuilt.tree hsound.tree)
    (hmem.straight hsound.names hsrc) hstill hfile

/-! ## The whole build, twice -/

/-- The templates of a build are as they were. -/
def Unharmed (config : Config) (src : Path) (w w' : World) : Prop :=
  ∀ t ∈ w.picked config src, w'.files.read w'.cwd t = w.files.read w.cwd t

/-- A build that is run again says the same and changes nothing. -/
def Repeats (config : Config) (src : Path) (out : Option Path) (summary : BuildSummary)
    (w' : World) : Prop :=
  ∃ w'', (Session.build config src out).run w' = .ok summary w'' ∧
    ∀ q, w''.files.at? q = w'.files.at? q

section Twice

variable {w w' : World} {src : Path} {out : Option Path} {summary : BuildSummary}

theorem repeats_of_sameTemplates (hrun : (Session.build config src out).run w = .ok summary w')
    (hsame : SameTemplates config src w w') :
    Unharmed config src w w' ∧ Repeats config src out summary w' := by
  obtain ⟨hsummary, hshown, hall⟩ := Session.build_eq_ok hrun
  obtain ⟨hcwd, hhost⟩ := (Session.steady_build config src out).of_ok hrun
  have hmore := World.picked_subset hcwd hall.grown config src
  have hkept : Unharmed config src w w' := fun t ht => (hsame t (hmore ht)).2
  have hpicked : w'.picked config src = w.picked config src :=
    Path.eq_of_ordered (w'.picked_ordered config src) (w.picked_ordered config src)
      fun t => ⟨fun ht => (hsame t ht).1, fun ht => hmore ht⟩
  obtain ⟨s'', hagain, hunchanged⟩ := hall.rerun fun t ht => hcwd ▸ hkept t ht
  have hdir : w'.outDirectory src out = w.outDirectory src out := by
    unfold World.outDirectory
    rw [hcwd]
  rw [← hpicked, ← hcwd, ← hdir, ← hhost] at hagain
  rw [← hdir, ← hhost] at hshown
  obtain ⟨w'', hrun', hfiles⟩ := Session.exists_build
    ((Session.ready_of_build hrun).grown hcwd hall.grown) hshown hagain
  rw [hdir, ← hsummary] at hrun'
  exact ⟨hkept, w'', hrun', fun q => by rw [hfiles, hunchanged]⟩

theorem sameTemplates_of_repeats (hrun : (Session.build config src out).run w = .ok summary w')
    (hkept : Unharmed config src w w') (hrepeats : Repeats config src out summary w') :
    SameTemplates config src w w' := by
  obtain ⟨-, -, hall⟩ := Session.build_eq_ok hrun
  have hcwd := ((Session.steady_build config src out).of_ok hrun).1
  obtain ⟨w'', hrun', -⟩ := hrepeats
  obtain ⟨-, -, hall'⟩ := Session.build_eq_ok hrun'
  -- as many modules have been written each time, so there were as many templates
  have hlen : (w'.picked config src).length ≤ (w.picked config src).length :=
    Nat.le_of_eq (hall'.length_eq.trans hall.length_eq.symm)
  have hperm : (w.picked config src).Perm (w'.picked config src) :=
    (List.subperm_of_subset (Path.nodup_of_ordered (w.picked_ordered config src))
      (World.picked_subset hcwd hall.grown config src)).perm_of_length_le hlen
  intro t ht
  have ht := hperm.mem_iff.mpr ht
  exact ⟨ht, hkept t ht⟩

/-- A build that succeeds leaves its templates as they were and can be repeated, with the
same outcome and no effect, exactly if it has made no new template and changed none. With
a plain suffix this is so whenever the extension does not end in the last dotted word of
the suffix, and whenever the modules go to a directory apart from the templates. -/
theorem build_repeats_iff (hrun : (Session.build config src out).run w = .ok summary w') :
    (Unharmed config src w w' ∧ Repeats config src out summary w' ↔
      SameTemplates config src w w') ∧
    (w.Sound → config.fault? = none → PlainSuffix config.templateSuffix →
      Distinct config (w.cwd.resolve src) (w.outDirectory src out) →
      Unharmed config src w w' ∧ Repeats config src out summary w') := by
  refine ⟨⟨fun h => sameTemplates_of_repeats hrun h.1 h.2, repeats_of_sameTemplates hrun⟩, ?_⟩
  intro hsound hfault hsuffix hdistinct
  exact repeats_of_sameTemplates hrun
    (sameTemplates_of_distinct hsound hfault hsuffix hdistinct hrun)

end Twice

theorem pairWorld_repeats : pairWorld.Sound ∧ Distinct {} ⟨.slash, ["s"]⟩ ⟨.slash, ["s"]⟩ ∧
    ∃ summary w', (Session.build {} ⟨.slash, ["s"]⟩ none).run pairWorld = .ok summary w' ∧
      Unharmed {} ⟨.slash, ["s"]⟩ pairWorld w' ∧
      Repeats {} ⟨.slash, ["s"]⟩ none summary w' := by
  have hsound : pairWorld.Sound := ⟨pairWorld_tree, by decide +kernel⟩
  have hdistinct : Distinct {} ⟨.slash, ["s"]⟩ ⟨.slash, ["s"]⟩ := by decide
  have hok : ((Session.build {} ⟨.slash, ["s"]⟩ none).run' pairWorld).isSome = true := by
    decide +kernel
  unfold EStateM.run' at hok
  cases hrun : (Session.build {} ⟨.slash, ["s"]⟩ none).run pairWorld with
  | error f w' =>
    rw [hrun] at hok
    cases hok
  | ok summary w' =>
    exact ⟨hsound, hdistinct, summary, w', rfl, (build_repeats_iff hrun).2 hsound (by decide)
      ⟨by decide, by decide, by decide, by decide⟩ hdistinct⟩

section Single

def singleEntries : List (Place × Entry) := [(["s"], .directory), (["s", "a.html"], .file rule)]

/-- A directory with one template. -/
def singleWorld : World :=
  { cwd := ⟨.slash, []⟩, files := Std.TreeMap.ofList singleEntries compare }

/-- What is seen of two builds: that the first succeeds, whether the template is as it
was, and whether the second succeeds. -/
def seenTwice (config : Config) : Option (Bool × Bool) :=
  match (Session.build config ⟨.slash, ["s"]⟩ none).run singleWorld with
  | .error _ _ => none
  | .ok _ w => some (w.files.at? ["s", "a.html"] = some (.file rule),
      ((Session.build config ⟨.slash, ["s"]⟩ none).run' w).isSome)

theorem exists_of_seenTwice {config : Config} {kept again : Bool}
    (h : seenTwice config = some (kept, again)) :
    ∃ summary w', (Session.build config ⟨.slash, ["s"]⟩ none).run singleWorld = .ok summary w' ∧
      (kept = false → w'.files.at? ["s", "a.html"] ≠ some (.file rule)) ∧
      (again = false → ¬ Repeats config ⟨.slash, ["s"]⟩ none summary w') := by
  unfold seenTwice at h
  split at h
  · cases h
  · next summary w' hrun =>
    cases h
    refine ⟨summary, w', hrun, of_decide_eq_false, ?_⟩
    rintro hnone ⟨w'', hagain, -⟩
    unfold EStateM.run' at hnone
    rw [hagain] at hnone
    cases hnone

/-- An extension that ends in the suffix of templates is accepted, and yet the build cannot
be repeated; if it is that suffix, the template is lost. -/
theorem confused_suffix_not_repeated :
    (Config.fault? { extension := ".x.html" } = none ∧ ∃ summary w',
      (Session.build { extension := ".x.html" } ⟨.slash, ["s"]⟩ none).run singleWorld =
        .ok summary w' ∧ ¬ Repeats { extension := ".x.html" } ⟨.slash, ["s"]⟩ none summary w') ∧
    Config.fault? { extension := ".html" } = none ∧ ∃ summary w',
      (Session.build { extension := ".html" } ⟨.slash, ["s"]⟩ none).run singleWorld =
        .ok summary w' ∧ w'.files.at? ["s", "a.html"] ≠ some (.file rule) := by
  have hmore : seenTwice { extension := ".x.html" } = some (true, false) := by decide +kernel
  have hover : seenTwice { extension := ".html" } = some (false, false) := by decide +kernel
  obtain ⟨summary, w', hrun, -, hrepeats⟩ := exists_of_seenTwice hmore
  obtain ⟨summary', w'', hrun', hlost, -⟩ := exists_of_seenTwice hover
  exact ⟨⟨by decide, summary, w', hrun, hrepeats rfl⟩, by decide, summary', w'', hrun', hlost rfl⟩

end Single

end JsxTemplate
