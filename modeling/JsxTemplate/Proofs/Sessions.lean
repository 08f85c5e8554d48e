import JsxTemplate.Project.Watch
import JsxTemplate.Proofs.Outputs

/-!
# Sessions

What the single operations of a session do, and what none of them does: a session stays
in its directory and on its host, whatever comes of it, and while it watches no error in
a template ends it.
-/

namespace JsxTemplate

/-! ## Failures from outside -/

/-- The system refused a path or an operation on files. -/
def Failure.ofSystem : Failure → Bool
  | .file _ | .zeroInPath => true
  | _ => false

/-- A failure is not the error of a template. -/
def Failure.Foreign (f : Failure) : Prop := ∀ e, f ≠ .template e

namespace Host

variable {host : Host} {f : Failure}

/-- Every notice can be shown. -/
def ShowsAll (host : Host) : Prop := ∀ n, host.refuses n = none

/-- A failure is not the session's own: the system refused something, or a notice cannot be
shown. -/
def Denies (host : Host) (f : Failure) : Prop :=
  f.ofSystem = true ∨ ∃ n g, host.refuses n = some g ∧ f = .unshown g

theorem Denies.foreign (h : host.Denies f) : f.Foreign := by
  rintro e rfl
  rcases h with h | ⟨n, g, -, h⟩
  · cases h
  · cases h

/-- Where every notice can be shown only the system is left to blame. -/
theorem ShowsAll.ofSystem (h : host.ShowsAll) (hf : host.Denies f) : f.ofSystem = true := by
  rcases hf with hf | ⟨n, g, hg, -⟩
  · exact hf
  · rw [h n] at hg
    cases hg

theorem denies_unshown {n : Notice} {g : ShowFault} (h : host.refuses n = some g) :
    host.Denies (.unshown g) :=
  .inr ⟨n, g, h, rfl⟩

end Host

/-! ## Runs -/

theorem run_bind_eq_ok {ε σ α β : Type} {a : EStateM ε σ α} {next : α → EStateM ε σ β} {b : β}
    {s s' : σ} (h : (a >>= next).run s = .ok b s') :
    ∃ v s₁, a.run s = .ok v s₁ ∧ (next v).run s₁ = .ok b s' := by
  rw [EStateM.run_bind] at h
  cases hrun : a.run s with
  | ok v s₁ =>
    rw [hrun] at h
    exact ⟨v, s₁, rfl, h⟩
  | error f s₁ =>
    rw [hrun] at h
    cases h

namespace Session

section Bind

variable {ε σ α β : Type} {x : EStateM ε σ α} {next : α → EStateM ε σ β} {a : α} {f : ε}
  {w w' : σ}

theorem bind_of_ok (h : x.run w = .ok a w') : (x >>= next).run w = (next a).run w' := by
  rw [EStateM.run_bind, h]

theorem bind_of_error (h : x.run w = .error f w') : (x >>= next).run w = .error f w' := by
  rw [EStateM.run_bind, h]

/-- A failure is handled in the world that it left. -/
theorem run_tryCatch (x : EStateM ε σ α) (handle : ε → EStateM ε σ α) (w : σ) :
    (tryCatch x handle).run w =
      match x.run w with
      | .ok a w' => .ok a w'
      | .error f w' => (handle f).run w' := by
  simp only [tryCatch, tryCatchThe, MonadExceptOf.tryCatch, EStateM.tryCatch, EStateM.run]
  cases x w <;> rfl

end Bind

/-- The world in which a session ends, well or not. -/
def after {α : Type} (x : Session α) (w : World) : World :=
  match x.run w with
  | .ok _ w' => w'
  | .error _ w' => w'

section After

variable {α β : Type} {x : Session α} {w w' : World}

theorem after_of_ok {a : α} (h : x.run w = .ok a w') : after x w = w' := by
  unfold after
  rw [h]

theorem after_of_error {f : Failure} (h : x.run w = .error f w') : after x w = w' := by
  unfold after
  rw [h]

theorem after_bind_pure (x : Session α) (g : α → β) (w : World) :
    after (x >>= fun a => pure (g a)) w = after x w := by
  unfold after
  rw [EStateM.run_bind]
  cases x.run w <;> rfl

end After

/-! ## Single operations -/

variable {p : Path} {w w' : World}

theorem run_note (n : Notice) (w : World) :
    (note n).run w =
      match w.host.refuses n with
      | none => .ok ⟨⟩ { w with notices := w.notices ++ [n] }
      | some f => .error (.unshown f) { w with notices := w.notices ++ [n] } := by
  have hsaid : (modify fun w => { w with notices := w.notices ++ [n] } : Session PUnit).run w =
      .ok ⟨⟩ { w with notices := w.notices ++ [n] } := rfl
  unfold note
  rw [bind_of_ok hsaid, bind_of_ok (EStateM.run_get _)]
  cases w.host.refuses n <;> rfl

theorem run_note_of_shown {n : Notice} (h : w.host.refuses n = none) :
    (note n).run w = .ok ⟨⟩ { w with notices := w.notices ++ [n] } := by
  rw [run_note, h]

theorem run_note_of_unshown {n : Notice} {f : ShowFault} (h : w.host.refuses n = some f) :
    (note n).run w = .error (.unshown f) { w with notices := w.notices ++ [n] } := by
  rw [run_note, h]

theorem note_eq_ok {n : Notice} (h : (note n).run w = .ok ⟨⟩ w') :
    w.host.refuses n = none ∧ w' = { w with notices := w.notices ++ [n] } := by
  rw [run_note] at h
  split at h
  · next hshown =>
    cases h
    exact ⟨hshown, rfl⟩
  · cases h

/-- Notices are given in turn, up to the first that cannot be shown. -/
theorem run_forM_note (notices : List Notice) (w : World) :
    ∃ said, (notices.forM note).run w =
      match notices.findSome? w.host.refuses with
      | none => .ok ⟨⟩ { w with notices := w.notices ++ said }
      | some f => .error (.unshown f) { w with notices := w.notices ++ said } := by
  induction notices generalizing w with
  | nil => exact ⟨[], by rw [List.append_nil]; rfl⟩
  | cons n notices ih =>
    have hrun : ((n :: notices).forM note).run w = (note n >>= fun _ => notices.forM note).run w :=
      rfl
    rw [hrun, List.findSome?_cons]
    cases hfirst : w.host.refuses n with
    | some f => exact ⟨[n], bind_of_error (run_note_of_unshown hfirst)⟩
    | none =>
      obtain ⟨said, hrest⟩ := ih { w with notices := w.notices ++ [n] }
      refine ⟨n :: said, ?_⟩
      rw [bind_of_ok (run_note_of_shown hfirst), hrest, List.append_assoc, List.singleton_append]

theorem run_ofExcept_bind {α β : Type} (r : Except Failure α) (next : α → Session β) (w : World) :
    (ofExcept r >>= next).run w =
      match r with
      | .error f => .error f w
      | .ok a => (next a).run w := by
  cases r <;> rfl

/-- What follows the check of a path runs if the path can be one of a file. -/
theorem run_checkPath_bind {α : Type} (p : Path) (next : Unit → Session α) (w : World) :
    (checkPath p >>= next).run w =
      if p.hasZero then .error .zeroInPath w else (next ⟨⟩).run w := by
  unfold checkPath
  split <;> rfl

theorem run_resolve (p : Path) (w : World) :
    (resolve p).run w =
      match w.cwd.resolve? p with
      | some complete => .ok complete w
      | none => .error .zeroInPath w := by
  unfold resolve
  rw [bind_of_ok (EStateM.run_get w)]
  cases w.cwd.resolve? p <;> rfl

theorem run_resolve_of_some {complete : Path} (h : w.cwd.resolve? p = some complete) :
    (resolve p).run w = .ok complete w := by
  rw [run_resolve, h]

theorem resolve_eq_ok {complete : Path} (h : (resolve p).run w = .ok complete w') :
    w.cwd.resolve? p = some complete ∧ w' = w := by
  rw [run_resolve] at h
  split at h
  · next hsome =>
    cases h
    exact ⟨hsome, rfl⟩
  · cases h

theorem run_look (p : Path) (w : World) :
    (look p).run w =
      match w.files.lookup w.cwd p with
      | .ok entry => .ok (some entry) w
      | .error .nameTooLong => .error (.file ⟨.nameTooLong, p⟩) w
      | .error _ => .ok none w := by
  unfold look
  rw [bind_of_ok (EStateM.run_get w)]
  cases w.files.lookup w.cwd p with
  | ok entry => rfl
  | error r => cases r <;> rfl

theorem lookup_of_look {entry : Entry} (h : (look p).run w = .ok (some entry) w') :
    w.files.lookup w.cwd p = .ok entry := by
  rw [run_look] at h
  split at h
  · next hlookup =>
    cases h
    exact hlookup
  · cases h
  · cases h

theorem run_readText (p : Path) (w : World) :
    (readText p).run w =
      if p.hasZero then .error .zeroInPath w
      else
        match w.files.read w.cwd p with
        | .error r => .error (.file ⟨r, p⟩) w
        | .ok bytes =>
          match Text.decode bytes with
          | .ok text => .ok text.unifyLineEnds w
          | .error f => .error (.encoding f) w := by
  unfold readText readBytes
  simp only [bind_assoc]
  rw [run_checkPath_bind]
  refine if_congr Iff.rfl rfl ?_
  rw [bind_of_ok (EStateM.run_get w)]
  cases w.files.read w.cwd p with
  | error r => rfl
  | ok bytes =>
    simp only [pure_bind]
    cases Text.decode bytes <;> rfl

theorem run_writeText (p : Path) (s : Text) (w : World) :
    (writeText p s).run w =
      if p.hasZero then .error .zeroInPath w
      else
        match w.files.write w.cwd p s.encode with
        | .ok files => .ok ⟨⟩ { w with files := files }
        | .error r => .error (.file ⟨r, p⟩) w := by
  unfold writeText
  rw [run_checkPath_bind]
  refine if_congr Iff.rfl rfl ?_
  rw [bind_of_ok (EStateM.run_get w)]
  cases w.files.write w.cwd p s.encode <;> rfl

theorem run_makeDirectories (p : Path) (w : World) :
    (makeDirectories p).run w =
      if p.hasZero then .error .zeroInPath w
      else
        match w.files.makeDirectories w.cwd p p.parts.length with
        | .ok files => .ok ⟨⟩ { w with files := files }
        | .error f => .error (.file f) w := by
  unfold makeDirectories
  rw [run_checkPath_bind]
  refine if_congr Iff.rfl rfl ?_
  rw [bind_of_ok (EStateM.run_get w)]
  cases w.files.makeDirectories w.cwd p p.parts.length <;> rfl

theorem run_unlink (p : Path) (w : World) :
    (unlink p).run w =
      match w.files.unlink w.cwd p with
      | .ok files => .ok ⟨⟩ { w with files := files }
      | .error r => .error (.file ⟨r, p⟩) w := by
  unfold unlink
  rw [bind_of_ok (EStateM.run_get w)]
  cases w.files.unlink w.cwd p <;> rfl

/-- Only the system can refuse a look at a path. -/
theorem look_outcome (p : Path) (w : World) :
    (∃ entry, (look p).run w = .ok entry w) ∨ ∃ f, (look p).run w = .error (.file f) w := by
  rw [run_look]
  split
  · exact .inl ⟨_, rfl⟩
  · exact .inr ⟨_, rfl⟩
  · exact .inl ⟨_, rfl⟩

/-- Looking at a path shows what stands at its place, unless the system refuses. -/
theorem look_cases (htree : w.files.Tree) (hp : p.Straight) :
    (look p).run w = .ok (w.files.at? p.parts) w ∨ ∃ f, (look p).run w = .error (.file f) w := by
  rw [run_look]
  cases hlook : w.files.lookup w.cwd p with
  | ok entry =>
    obtain ⟨hat, -⟩ := Store.lookup_eq_ok hp hlook
    exact .inl (by rw [hat])
  | error r =>
    by_cases hr : r = .nameTooLong
    · subst hr
      exact .inr ⟨_, rfl⟩
    · have hat := htree.lookup_eq_error hp hlook hr
      rw [hat]
      refine .inl ?_
      cases r <;> first | rfl | exact absurd rfl hr

/-! ## What a session keeps -/

/-- A relation that a world has to itself and that carries on from one step to the next. -/
class Lasting (R : World → World → Prop) : Prop where
  refl (w : World) : R w w
  trans {w w₁ w' : World} : R w w₁ → R w₁ w' → R w w'

/-- Whatever comes of a session, the world in which it ends is so related to the one in which
it began. -/
def Keeps {α : Type} (R : World → World → Prop) (x : Session α) : Prop := ∀ w, R w (after x w)

namespace Keeps

variable {α β : Type} {R : World → World → Prop} {x : Session α}

theorem of_ok {a : α} (h : Keeps R x) (hrun : x.run w = .ok a w') : R w w' :=
  after_of_ok hrun ▸ h w

theorem of_error {f : Failure} (h : Keeps R x) (hrun : x.run w = .error f w') : R w w' :=
  after_of_error hrun ▸ h w

variable [Lasting R]

theorem pure (a : α) : Keeps R (pure a : Session α) := fun w => Lasting.refl w

theorem throw (f : Failure) : Keeps R (throw f : Session α) := fun w => Lasting.refl w

theorem get : Keeps R (get : Session World) := fun w => Lasting.refl w

theorem ofExcept (r : Except Failure α) : Keeps R (ofExcept r) := by
  cases r with
  | ok a => exact pure a
  | error f => exact throw f

theorem bind {next : α → Session β} (hx : Keeps R x) (hnext : ∀ a, Keeps R (next a)) :
    Keeps R (x >>= next) := by
  intro w
  unfold after
  cases hrun : x.run w with
  | error f w₁ =>
    rw [bind_of_error hrun]
    exact hx.of_error hrun
  | ok a w₁ =>
    rw [bind_of_ok hrun]
    exact Lasting.trans (hx.of_ok hrun) (hnext a w₁)

theorem tryCatch {handle : Failure → Session α} (hx : Keeps R x)
    (hhandle : ∀ f, Keeps R (handle f)) : Keeps R (tryCatch x handle) := by
  intro w
  unfold after
  rw [run_tryCatch]
  cases hrun : x.run w with
  | ok a w₁ => exact hx.of_ok hrun
  | error f w₁ => exact Lasting.trans (hx.of_error hrun) (hhandle f w₁)

theorem mapM {next : β → Session α} {bs : List β} (hnext : ∀ b ∈ bs, Keeps R (next b)) :
    Keeps R (bs.mapM next) := by
  induction bs with
  | nil => exact pure []
  | cons b bs ih =>
    obtain ⟨hfirst, hrest⟩ := List.forall_mem_cons.mp hnext
    rw [List.mapM_cons]
    exact hfirst.bind fun a => (ih hrest).bind fun as => pure (a :: as)

theorem forM {next : β → Session PUnit} (hnext : ∀ b, Keeps R (next b)) (bs : List β) :
    Keeps R (bs.forM next) := by
  induction bs with
  | nil => exact pure PUnit.unit
  | cons b bs ih => exact (hnext b).bind fun _ => ih

theorem foldlM {next : α → β → Session α} (hnext : ∀ a b, Keeps R (next a b)) (bs : List β)
    (a : α) : Keeps R (bs.foldlM next a) := by
  induction bs generalizing a with
  | nil => exact pure a
  | cons b bs ih => exact (hnext a b).bind fun a => ih a

theorem attempt {config : Config} {template target : Path} {done : α}
    {rejected : TemplateError → Session α}
    (hcompile : Keeps R (compileFile config template (some target) none))
    (hrejected : ∀ e, Keeps R (rejected e)) :
    Keeps R (attempt config template target done rejected) := by
  refine tryCatch (hcompile.bind fun _ => pure done) fun f => ?_
  cases f with
  | template e => exact hrejected e
  | _ => exact throw _

end Keeps

/-! ## Where a session stays -/

/-- The directory and the host are the same. -/
structure Stays (w w' : World) : Prop where
  cwd : w'.cwd = w.cwd
  host : w'.host = w.host

instance : Lasting Stays where
  refl _ := ⟨rfl, rfl⟩
  trans h h' := ⟨h'.cwd.trans h.cwd, h'.host.trans h.host⟩

/-- The files are the same as well. -/
structure Rests (w w' : World) : Prop extends Stays w w' where
  files : w'.files = w.files

instance : Lasting Rests where
  refl w := ⟨Lasting.refl w, rfl⟩
  trans h h' := ⟨Lasting.trans h.toStays h'.toStays, h'.files.trans h.files⟩

/-- A session stays in its directory and on its host, whatever comes of it. -/
abbrev Steady {α : Type} (x : Session α) : Prop := Keeps Stays x

/-- A session changes no file either, whatever comes of it. -/
abbrev Idle {α : Type} (x : Session α) : Prop := Keeps Rests x

theorem Idle.steady {α : Type} {x : Session α} (h : Idle x) : Steady x := fun w => (h w).toStays

theorem idle_note (n : Notice) : Idle (note n) := by
  intro w
  unfold after
  rw [run_note]
  cases w.host.refuses n <;> exact ⟨⟨rfl, rfl⟩, rfl⟩

theorem idle_resolve (p : Path) : Idle (resolve p) := by
  intro w
  unfold after
  rw [run_resolve]
  cases w.cwd.resolve? p <;> exact Lasting.refl w

theorem idle_look (p : Path) : Idle (look p) := by
  intro w
  rcases look_outcome p w with ⟨entry, hrun⟩ | ⟨f, hrun⟩
  · rw [after_of_ok hrun]
    exact Lasting.refl w
  · rw [after_of_error hrun]
    exact Lasting.refl w

theorem idle_readText (p : Path) : Idle (readText p) := by
  intro w
  unfold after
  rw [run_readText]
  cases p.hasZero with
  | true => exact Lasting.refl w
  | false =>
    cases w.files.read w.cwd p with
    | error r => exact Lasting.refl w
    | ok bytes =>
      simp only [Bool.false_eq_true, ↓reduceIte]
      cases Text.decode bytes <;> exact Lasting.refl w

theorem idle_parseFile (p : Path) : Idle (parseFile p) :=
  (idle_readText p).bind fun _ => (Keeps.forM idle_note _).bind fun _ => Keeps.ofExcept _

theorem steady_writeText (p : Path) (s : Text) : Steady (writeText p s) := by
  intro w
  unfold after
  rw [run_writeText]
  split_ifs
  · exact ⟨rfl, rfl⟩
  · cases w.files.write w.cwd p s.encode <;> exact ⟨rfl, rfl⟩

theorem steady_makeDirectories (p : Path) : Steady (makeDirectories p) := by
  intro w
  unfold after
  rw [run_makeDirectories]
  split_ifs
  · exact ⟨rfl, rfl⟩
  · cases w.files.makeDirectories w.cwd p p.parts.length <;> exact ⟨rfl, rfl⟩

theorem steady_unlink (p : Path) : Steady (unlink p) := by
  intro w
  unfold after
  rw [run_unlink]
  cases w.files.unlink w.cwd p <;> exact ⟨rfl, rfl⟩

theorem steady_emit (template target : Path) (source : Text) :
    Steady (emit template target source) :=
  (steady_makeDirectories _).bind fun _ => (steady_writeText _ _).bind fun _ =>
    (idle_note _).steady.bind fun _ => Keeps.pure source

theorem steady_compileFile (config : Config) (src : Path) (out : Option Path)
    (name : Option Text) : Steady (compileFile config src out name) := by
  refine (idle_parseFile src).steady.bind fun template => Keeps.get.bind fun w =>
    (Keeps.ofExcept _).bind fun _ => ?_
  cases out with
  | none => exact Keeps.pure _
  | some out => exact steady_emit _ _ _

theorem steady_buildOne (config : Config) (src out template : Path) :
    Steady (buildOne config src out template) :=
  (Keeps.ofExcept _).bind fun _ => Keeps.attempt (steady_compileFile _ _ _ _) fun _ =>
    (idle_note _).steady.bind fun _ => Keeps.throw _

theorem steady_templates (src : Path) (suffix : Text) : Steady (templates src suffix) := by
  refine (Keeps.ofExcept _).bind fun pattern => (idle_look src).steady.bind fun entry => ?_
  split
  · exact Keeps.get.bind fun _ => Keeps.pure _
  · exact Keeps.pure []

theorem steady_outDirectory (out : Option Path) (S : Path) :
    Steady ((out.map resolve).getD (Pure.pure S)) := by
  cases out with
  | none => exact Keeps.pure S
  | some out => exact (idle_resolve out).steady

theorem steady_build (config : Config) (src : Path) (out : Option Path) :
    Steady (build config src out) := by
  refine (idle_resolve src).steady.bind fun S => (steady_outDirectory out S).bind fun O =>
    (idle_look S).steady.bind fun entry => ?_
  split
  · exact Keeps.throw _
  · refine (steady_templates S _).bind fun ts => ?_
    refine (Keeps.foldlM (fun _ t => (steady_buildOne config S O t).bind fun _ => ?_) ts _).bind
      fun _ => (idle_note _).steady.bind fun _ => Keeps.pure _
    exact Keeps.pure _

theorem steady_discard (target : Path) : Steady (discard target) := by
  refine (idle_look target).steady.bind fun found => ?_
  split
  · exact (steady_unlink target).bind fun _ => (idle_note _).steady
  · exact Keeps.pure PUnit.unit

theorem steady_refresh (config : Config) (src out template : Path) :
    Steady (refresh config src out template) := by
  unfold refresh
  cases template.output src out config.extension with
  | error f => exact Keeps.pure none
  | ok target =>
    refine (idle_look template).steady.bind fun entry => ?_
    split
    · exact Keeps.attempt (steady_compileFile _ _ _ _) fun _ =>
        (idle_note _).steady.bind fun _ => Keeps.pure none
    · exact (steady_discard target).bind fun _ => Keeps.pure none

theorem steady_applyChanges (config : Config) (src out : Path) (changes : List Change) :
    Steady (applyChanges config src out changes) := by
  have hpaths : Steady (changes.mapM fun c => resolve c.path) :=
    Keeps.mapM fun c _ => (idle_resolve c.path).steady
  refine hpaths.bind fun paths => ?_
  exact (Keeps.mapM fun p _ => steady_refresh config src out p).bind fun _ => Keeps.pure _

end Session

/-! ## What can end a session -/

/-- Whenever an activity fails, it does so in one of these ways. -/
def FailsOnly {ε α : Type} (way : ε → Prop) (x : EStateM ε World α) : Prop :=
  ∀ w f w', x.run w = .error f w' → way f

namespace FailsOnly

variable {ε α β : Type} {way : ε → Prop} {x : EStateM ε World α}

theorem pure (a : α) : FailsOnly way (pure a : EStateM ε World α) := by
  intro w f w' hrun
  cases hrun

theorem throw {f : ε} (hf : way f) : FailsOnly way (throw f : EStateM ε World α) := by
  intro w g w' hrun
  cases hrun
  exact hf

theorem bind {next : α → EStateM ε World β} (hx : FailsOnly way x)
    (hnext : ∀ a, FailsOnly way (next a)) : FailsOnly way (x >>= next) := by
  intro w f w' hrun
  cases hfirst : x.run w with
  | error g w₁ =>
    rw [Session.bind_of_error hfirst] at hrun
    cases hrun
    exact hx w f w' hfirst
  | ok a w₁ =>
    rw [Session.bind_of_ok hfirst] at hrun
    exact hnext a w₁ f w' hrun

/-- A failure that is handled matters only for what the handler makes of it. -/
theorem tryCatch {handle : ε → EStateM ε World α}
    (hhandle : ∀ w f w', x.run w = .error f w' → FailsOnly way (handle f)) :
    FailsOnly way (tryCatch x handle) := by
  intro w f w' hrun
  rw [Session.run_tryCatch] at hrun
  cases hfirst : x.run w with
  | ok a w₁ =>
    rw [hfirst] at hrun
    cases hrun
  | error g w₁ =>
    rw [hfirst] at hrun
    exact hhandle w g w₁ hfirst w₁ f w' hrun

theorem mapM {next : β → EStateM ε World α} (hnext : ∀ b, FailsOnly way (next b))
    (bs : List β) : FailsOnly way (bs.mapM next) := by
  induction bs with
  | nil => exact pure []
  | cons b bs ih =>
    rw [List.mapM_cons]
    exact (hnext b).bind fun a => ih.bind fun as => pure (a :: as)

theorem forM {next : β → EStateM ε World PUnit} (hnext : ∀ b, FailsOnly way (next b))
    (bs : List β) : FailsOnly way (bs.forM next) := by
  induction bs with
  | nil => exact pure PUnit.unit
  | cons b bs ih => exact (hnext b).bind fun _ => ih

end FailsOnly

namespace Session

theorem foreign_note (n : Notice) : FailsOnly Failure.Foreign (note n) := by
  intro w f w' hrun e
  rw [run_note] at hrun
  split at hrun <;> cases hrun
  exact nofun

theorem foreign_resolve (p : Path) : FailsOnly Failure.Foreign (resolve p) := by
  intro w f w' hrun e
  rw [run_resolve] at hrun
  split at hrun <;> cases hrun
  exact nofun

theorem foreign_outDirectory (out : Option Path) (S : Path) :
    FailsOnly Failure.Foreign ((out.map resolve).getD (pure S)) := by
  cases out with
  | none => exact .pure S
  | some out => exact foreign_resolve out

theorem foreign_look (p : Path) : FailsOnly Failure.Foreign (look p) := by
  intro w f w' hrun e
  rcases look_outcome p w with ⟨entry, hlook⟩ | ⟨g, hlook⟩
  · rw [hlook] at hrun
    cases hrun
  · rw [hlook] at hrun
    cases hrun
    exact nofun

theorem foreign_discard (target : Path) : FailsOnly Failure.Foreign (discard target) := by
  refine (foreign_look target).bind fun found => ?_
  split
  · refine FailsOnly.bind ?_ fun _ => foreign_note _
    intro w f w' hrun e
    rw [run_unlink] at hrun
    split at hrun <;> cases hrun
    exact nofun
  · exact .pure _

/-- An error in a template is handled, so that others are left. -/
theorem foreign_attempt {α : Type} (config : Config) (template target : Path) (done : α)
    {rejected : TemplateError → Session α}
    (hrejected : ∀ e, FailsOnly Failure.Foreign (rejected e)) :
    FailsOnly Failure.Foreign (attempt config template target done rejected) := by
  refine FailsOnly.tryCatch fun w f w' _ => ?_
  cases f with
  | template e => exact hrejected e
  | _ => exact .throw nofun

theorem foreign_refresh (config : Config) (src out template : Path) :
    FailsOnly Failure.Foreign (refresh config src out template) := by
  unfold refresh
  cases template.output src out config.extension with
  | error f => exact .pure none
  | ok target =>
    refine (foreign_look template).bind fun entry => ?_
    split
    · exact foreign_attempt _ _ _ _ fun _ => (foreign_note _).bind fun _ => .pure none
    · exact (foreign_discard target).bind fun _ => .pure none

/-- No error in a template ends a session that watches. -/
theorem foreign_watch (config : Config) (src : Path) (out : Option Path)
    (batches : List Batch) : FailsOnly Failure.Foreign (watch config src out batches) := by
  refine (foreign_resolve src).bind fun S => (foreign_outDirectory out S).bind fun O =>
    (foreign_note _).bind fun _ => FailsOnly.forM (fun batch => ?_) batches
  have hchanges : FailsOnly Failure.Foreign (applyChanges config S O batch.changes) := by
    have hpaths : FailsOnly Failure.Foreign (batch.changes.mapM fun c => resolve c.path) :=
      FailsOnly.mapM (fun c => foreign_resolve c.path) batch.changes
    refine hpaths.bind fun paths => ?_
    exact (FailsOnly.mapM (foreign_refresh config S O) _).bind fun _ => .pure _
  refine FailsOnly.bind ?_ fun _ => hchanges.bind fun _ => .pure _
  intro w f w' hrun
  cases hrun

end Session

end JsxTemplate
