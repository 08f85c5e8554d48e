import JsxTemplate.Proofs.Sessions

/-!
# Compiling files

A session that compiles a file puts its module at the target and leaves every other
file as it is; or the file has no module and nothing has changed; or the system has
refused the target, where then was no room, or a notice cannot be shown.
-/

namespace JsxTemplate

theorem Config.dots {config : Config} (h : config.fault? = none) :
    config.extension.head? = some '.' ∧ config.templateSuffix.head? = some '.' := by
  unfold fault? at h
  split at h
  · cases h
  · split at h
    · cases h
    · next hextension =>
      split at h
      · cases h
      · next hsuffix => exact ⟨not_not.mp hextension, not_not.mp hsuffix⟩

/-! ## The module of a file -/

/-- The module of a template file that holds these bytes. -/
def Config.moduleOf (config : Config) (t : Path) (bytes : Text.Bytes) : Except Failure Text :=
  match Text.decode bytes with
  | .ok text => (compile config (Jsx.componentName t.stem) t.toText text.unifyLineEnds).2
  | .error f => .error (.encoding f)

/-- The template in a file that holds these bytes, with the notices on the way. -/
def parseBytes (t : Path) (bytes : Text.Bytes) : List Notice × Except Failure Template :=
  match Text.decode bytes with
  | .ok text => Template.parse t.toText text.unifyLineEnds
  | .error f => ([], .error (.encoding f))

/-- What a host makes of a template file that holds these bytes: its module, unless a notice
on the way cannot be shown or the stack is too small. -/
def Host.moduleOf (host : Host) (config : Config) (t : Path) (bytes : Text.Bytes) :
    Except Failure Text :=
  match (parseBytes t bytes).1.findSome? host.refuses with
  | some f => .error (.unshown f)
  | none =>
    match (parseBytes t bytes).2 with
    | .ok template => host.generate template config (Jsx.componentName t.stem)
    | .error f => .error f

/-- The module of a template file, if it can be read. -/
def World.moduleOf (w : World) (config : Config) (t : Path) : Except Failure Text :=
  if t.hasZero then .error .zeroInPath
  else
    match w.files.read w.cwd t with
    | .error r => .error (.file ⟨r, t⟩)
    | .ok bytes => w.host.moduleOf config t bytes

theorem Config.moduleOf_of_parse {config : Config} {t : Path} {bytes : Text.Bytes}
    {template : Template} (h : (parseBytes t bytes).2 = .ok template) :
    config.moduleOf t bytes = template.generate config (Jsx.componentName t.stem) := by
  unfold parseBytes at h
  unfold Config.moduleOf compile
  split at h
  · next text _ =>
    rcases hparse : Template.parse t.toText text.unifyLineEnds with ⟨notices, result⟩
    rw [hparse] at h
    simp only at h
    simp only [h]
  · cases h

theorem Config.moduleOf_of_parse_error (config : Config) {t : Path} {bytes : Text.Bytes}
    {f : Failure} (h : (parseBytes t bytes).2 = .error f) : config.moduleOf t bytes = .error f := by
  unfold parseBytes at h
  unfold Config.moduleOf compile
  split at h
  · next text _ =>
    rcases hparse : Template.parse t.toText text.unifyLineEnds with ⟨notices, result⟩
    rw [hparse] at h
    simp only at h
    simp only [h]
  · cases h
    rfl

namespace Host

variable {host : Host} {config : Config} {t : Path} {bytes : Text.Bytes} {source : Text}
  {f : Failure}

/-- What a host makes of a template file: a notice on the way cannot be shown, or the stack is
too small for the template, or it is the module that the file has on every host. -/
theorem moduleOf_cases (host : Host) (config : Config) (t : Path) (bytes : Text.Bytes) :
    (∃ n ∈ (parseBytes t bytes).1, ∃ g, host.refuses n = some g ∧
      host.moduleOf config t bytes = .error (.unshown g)) ∨
    (∃ template, (parseBytes t bytes).2 = .ok template ∧ host.overflows config template = true ∧
      host.moduleOf config t bytes = .error .tooDeep) ∨
    host.moduleOf config t bytes = config.moduleOf t bytes := by
  unfold moduleOf
  cases hsaid : (parseBytes t bytes).1.findSome? host.refuses with
  | some g =>
    obtain ⟨n, hn, hg⟩ := List.exists_of_findSome?_eq_some hsaid
    exact .inl ⟨n, hn, g, hg, rfl⟩
  | none =>
    simp only
    cases hparse : (parseBytes t bytes).2 with
    | error f => exact .inr (.inr (config.moduleOf_of_parse_error hparse).symm)
    | ok template =>
      simp only
      unfold Host.generate
      split
      · next hdeep => exact .inr (.inl ⟨template, rfl, hdeep, rfl⟩)
      · exact .inr (.inr (Config.moduleOf_of_parse hparse).symm)

theorem moduleOf_eq_ok (h : host.moduleOf config t bytes = .ok source) :
    config.moduleOf t bytes = .ok source := by
  rcases host.moduleOf_cases config t bytes with ⟨n, -, g, -, hg⟩ | ⟨template, -, -, hdeep⟩ | hsame
  · rw [h] at hg
    cases hg
  · rw [h] at hdeep
    cases hdeep
  · exact hsame ▸ h

/-- An error in a template is one on every host. -/
theorem moduleOf_eq_template {e : TemplateError}
    (h : host.moduleOf config t bytes = .error (.template e)) :
    config.moduleOf t bytes = .error (.template e) := by
  rcases host.moduleOf_cases config t bytes with ⟨n, -, g, -, hg⟩ | ⟨template, -, -, hdeep⟩ | hsame
  · rw [h] at hg
    cases hg
  · rw [h] at hdeep
    cases hdeep
  · exact hsame ▸ h

end Host

namespace Session

variable {config : Config} {t p target : Path} {w w' : World}

/-! ## Compiling -/

theorem calledName_none (t : Path) : calledName t none = Jsx.componentName t.stem := rfl

theorem run_compileFile_of_text (config : Config) (target : Path) {text : Text}
    {bytes : Text.Bytes} (hread : (readText t).run w = .ok text w)
    (hparse : parseBytes t bytes = Template.parse t.toText text) :
    ∃ notices, (compileFile config t (some target) none).run w =
      match w.host.moduleOf config t bytes with
      | .error f => .error f { w with notices := w.notices ++ notices }
      | .ok source => (emit t target source).run { w with notices := w.notices ++ notices } := by
  obtain ⟨said, hsaid⟩ := run_forM_note (Template.parse t.toText text).1 w
  refine ⟨said, ?_⟩
  unfold compileFile parseFile Host.moduleOf
  simp only [bind_assoc]
  rw [bind_of_ok hread, hparse]
  cases hshown : (Template.parse t.toText text).1.findSome? w.host.refuses with
  | some f =>
    rw [hshown] at hsaid
    exact bind_of_error hsaid
  | none =>
    rw [hshown] at hsaid
    rw [bind_of_ok hsaid]
    cases (Template.parse t.toText text).2 with
    | error f => rfl
    | ok template =>
      rw [run_ofExcept_bind]
      simp only
      rw [bind_of_ok (EStateM.run_get _), calledName_none, run_ofExcept_bind]
      cases w.host.generate template config (Jsx.componentName t.stem) <;> rfl

/-- What compiling a file does: its module goes to its place, if it has one. -/
theorem run_compileFile (config : Config) (t target : Path) (w : World) :
    ∃ notices, (compileFile config t (some target) none).run w =
      match w.moduleOf config t with
      | .error f => .error f { w with notices := w.notices ++ notices }
      | .ok source => (emit t target source).run { w with notices := w.notices ++ notices } := by
  have hfailed : ∀ {f}, (readText t).run w = .error f w →
      (compileFile config t (some target) none).run w =
        .error f { w with notices := w.notices ++ [] } := by
    intro f hrun
    unfold compileFile parseFile
    rw [bind_of_error (bind_of_error hrun), List.append_nil]
  have hread := run_readText t w
  unfold World.moduleOf
  by_cases hzero : t.hasZero = true
  · rw [if_pos hzero] at hread ⊢
    exact ⟨[], hfailed hread⟩
  · rw [if_neg hzero] at hread ⊢
    cases hbytes : w.files.read w.cwd t with
    | error r =>
      rw [hbytes] at hread
      exact ⟨[], hfailed hread⟩
    | ok bytes =>
      rw [hbytes] at hread
      simp only at hread ⊢
      cases htext : Text.decode bytes with
      | ok text =>
        rw [htext] at hread
        exact run_compileFile_of_text config target hread (by unfold parseBytes; rw [htext])
      | error f =>
        rw [htext] at hread
        have hmodule : w.host.moduleOf config t bytes = .error (.encoding f) := by
          unfold Host.moduleOf parseBytes
          rw [htext]
          rfl
        exact ⟨[], by rw [hmodule, hfailed hread]⟩

/-- A module goes to its place once its directory is made, and then this is said. -/
theorem run_emit (t target : Path) (source : Text) (w : World) :
    (emit t target source).run w =
      if target.parent.hasZero then .error .zeroInPath w
      else
        match w.files.makeDirectories w.cwd target.parent target.parent.parts.length with
        | .error f => .error (.file f) w
        | .ok made =>
          if target.hasZero then .error .zeroInPath { w with files := made }
          else
            match made.write w.cwd target source.encode with
            | .error r => .error (.file ⟨r, target⟩) { w with files := made }
            | .ok files =>
              match w.host.refuses (.compiled t target) with
              | none =>
                .ok source
                  { w with files := files, notices := w.notices ++ [.compiled t target] }
              | some f =>
                .error (.unshown f)
                  { w with files := files, notices := w.notices ++ [.compiled t target] } := by
  unfold emit
  rw [EStateM.run_bind, run_makeDirectories]
  cases target.parent.hasZero with
  | true => rfl
  | false =>
    cases w.files.makeDirectories w.cwd target.parent target.parent.parts.length with
    | error f => rfl
    | ok made =>
      simp only [Bool.false_eq_true, ↓reduceIte]
      rw [EStateM.run_bind, run_writeText]
      cases target.hasZero with
      | true => rfl
      | false =>
        simp only [Bool.false_eq_true, ↓reduceIte]
        cases made.write w.cwd target source.encode with
        | error r => rfl
        | ok files =>
          simp only
          rw [EStateM.run_bind, run_note]
          cases w.host.refuses (.compiled t target) <;> rfl

/-- Why a module cannot be written: the system refuses it, or there can be no such file, or
what is said of it cannot be shown. -/
theorem emit_eq_error {f : Failure} {source : Text}
    (h : (emit t target source).run w = .error f w') :
    (∃ g, f = .file g) ∨ (f = .zeroInPath ∧ target.hasZero = true) ∨
      ∃ g, f = .unshown g ∧ w.host.refuses (.compiled t target) = some g := by
  rw [run_emit] at h
  split at h
  · next hzero =>
    cases h
    exact .inr (.inl ⟨rfl, Path.hasZero_of_parent hzero⟩)
  · split at h
    · cases h
      exact .inl ⟨_, rfl⟩
    · split at h
      · next hzero =>
        cases h
        exact .inr (.inl ⟨rfl, hzero⟩)
      · split at h
        · cases h
          exact .inl ⟨_, rfl⟩
        · split at h
          · cases h
          · next g hg =>
            cases h
            exact .inr (.inr ⟨g, rfl, hg⟩)

/-- Why a module has not been put at its place: the system has refused it and there was no
room, or what is said of it cannot be shown. -/
inductive Unplaced (w : World) (target : Path) : Failure → Prop
  | refused {f : Failure} (hf : f.ofSystem = true) (hroom : ¬ w.files.Room target) :
    Unplaced w target f
  | unshown {n : Notice} {g : ShowFault} (hg : w.host.refuses n = some g) :
    Unplaced w target (.unshown g)

theorem Unplaced.denies {f : Failure} (h : Unplaced w target f) : w.host.Denies f := by
  cases h with
  | refused hf _ => exact .inl hf
  | unshown hg => exact Host.denies_unshown hg

/-- The system does not refuse a target for which there is room. -/
theorem unplaced_of_emit {f : Failure} {source : Text}
    (h : (emit t target source).run w = .error f w') : Unplaced w target f := by
  have hroomless : f.ofSystem = true → ¬ w.files.Room target := by
    intro hf hroom
    obtain ⟨made, hmade, files, hwrite⟩ := hroom.exists_write w.cwd source.encode
    rw [run_emit, Path.parent_no_zero hroom.no_zero, hmade, hroom.no_zero] at h
    simp only [Bool.false_eq_true, ↓reduceIte, hwrite] at h
    split at h
    · cases h
    · cases h
      cases hf
  rcases emit_eq_error h with ⟨g, rfl⟩ | ⟨rfl, -⟩ | ⟨g, rfl, hg⟩
  · exact .refused rfl (hroomless rfl)
  · exact .refused rfl (hroomless rfl)
  · exact .unshown hg

/-- Writing a module puts it at the target, unless something outside the session fails. -/
theorem emit_cases (htarget : target.Straight) (t : Path) (source : Text) (w : World) :
    (∃ w', (emit t target source).run w = .ok source w' ∧ w'.cwd = w.cwd ∧
        w.files.Placed target.parts source.encode w'.files) ∨
      ∃ f w', Unplaced w target f ∧ (emit t target source).run w = .error f w' := by
  cases hrun : (emit t target source).run w with
  | error f w' => exact .inr ⟨f, w', unplaced_of_emit hrun, rfl⟩
  | ok written w' =>
    rw [run_emit] at hrun
    split at hrun
    · cases hrun
    · split at hrun
      · cases hrun
      · next made hmade =>
        split at hrun
        · cases hrun
        · split at hrun
          · cases hrun
          · next files hwrite =>
            split at hrun
            · cases hrun
              have hraised := Store.makeDirectories_eq_ok htarget.parent (Nat.le_refl _) hmade
              rw [List.take_length] at hraised
              exact .inl ⟨_, rfl, rfl, Store.write_eq_ok htarget hraised hwrite⟩
            · cases hrun

/-- What comes of compiling a file: its module stands at the target and nothing else
has changed, or it has no module and nothing has changed, or the module could not be put
there. -/
theorem compileFile_cases (htarget : target.Straight) (config : Config) (t : Path) (w : World) :
    (∃ source w', w.moduleOf config t = .ok source ∧
      (compileFile config t (some target) none).run w = .ok source w' ∧ w'.cwd = w.cwd ∧
      w.files.Placed target.parts source.encode w'.files) ∨
    (∃ f w', w.moduleOf config t = .error f ∧
      (compileFile config t (some target) none).run w = .error f w' ∧ w'.cwd = w.cwd ∧
      w'.files = w.files) ∨
    ∃ f w', Unplaced w target f ∧
      (compileFile config t (some target) none).run w = .error f w' := by
  obtain ⟨notices, hrun⟩ := run_compileFile config t target w
  cases hmodule : w.moduleOf config t with
  | error f =>
    rw [hmodule] at hrun
    exact .inr (.inl ⟨f, _, rfl, hrun, rfl, rfl⟩)
  | ok source =>
    rw [hmodule] at hrun
    rcases emit_cases htarget t source { w with notices := w.notices ++ notices } with
      ⟨w', hok, hcwd, hplaced⟩ | ⟨f, w', hf, herror⟩
    · exact .inl ⟨source, w', rfl, hrun.trans hok, hcwd, hplaced⟩
    · refine .inr (.inr ⟨f, w', ?_, hrun.trans herror⟩)
      cases hf with
      | refused hf hroom => exact .refused hf hroom
      | unshown hg => exact .unshown hg

section Attempt

variable {α : Type} {done : α} {rejected : TemplateError → Session α}

theorem attempt_of_ok {source : Text}
    (hrun : (compileFile config t (some target) none).run w = .ok source w') :
    (attempt config t target done rejected).run w = .ok done w' := by
  unfold attempt
  rw [run_tryCatch, bind_of_ok hrun]
  rfl

/-- An error of the template itself is handled. -/
theorem attempt_of_template {e : TemplateError}
    (hrun : (compileFile config t (some target) none).run w = .error (.template e) w') :
    (attempt config t target done rejected).run w = (rejected e).run w' := by
  unfold attempt
  rw [run_tryCatch, bind_of_error hrun]

theorem attempt_of_error {f : Failure}
    (hrun : (compileFile config t (some target) none).run w = .error f w')
    (hf : f.Foreign) :
    (attempt config t target done rejected).run w = .error f w' := by
  unfold attempt
  rw [run_tryCatch, bind_of_error hrun]
  cases f with
  | template e => exact absurd rfl (hf e)
  | _ => rfl

end Attempt

end Session

/-! ## Modules of files -/

theorem documentNodes_ok_of_file {file : Text} (file' : Text) {content : Text}
    {nodes : List Node} (h : documentNodes file content = .ok nodes) :
    documentNodes file' content = .ok nodes := by
  unfold documentNodes at h ⊢
  rcases hread : Markup.read content with ⟨pieces, fault⟩
  cases hgrown : ({} : Growth).handleAll (Markup.locate 1 pieces) with
  | error f =>
    simp only [hread, hgrown] at h
    cases h
  | ok grown =>
    cases fault with
    | some f =>
      simp only [hread, hgrown] at h
      cases h
    | none =>
      cases hfinish : grown.finish with
      | error f =>
        simp only [hread, hgrown, hfinish] at h
        cases h
      | ok nodes =>
        simp only [hread, hgrown, hfinish] at h ⊢
        exact h

/-- What an element of a file adds does not depend on the file's name. -/
theorem Findings.add_ok_of_file {file : Text} (file' : Text) {found found' found₁ : Findings}
    {e : Element} (hroot : found'.root = found.root) (himports : found'.imports = found.imports)
    (h : found.add file e = .ok found₁) :
    ∃ found₁', found'.add file' e = .ok found₁' ∧ found₁'.root = found₁.root ∧
      found₁'.imports = found₁.imports := by
  unfold Findings.add at h ⊢
  rw [hroot, himports]
  by_cases hname : e.name = "template"
  · rw [if_pos hname] at h ⊢
    cases hfound : found.root with
    | none =>
      rw [hfound] at h
      cases h
      exact ⟨_, rfl, rfl, rfl⟩
    | some root =>
      rw [hfound] at h
      cases h
      exact ⟨_, rfl, rfl, rfl⟩
  · rw [if_neg hname] at h ⊢
    by_cases hlink : e.name = "link" ∧ e.attr "rel" = "import"
    · rw [if_pos hlink] at h ⊢
      cases himport : e.componentImport with
      | error f =>
        rw [himport] at h
        cases h
      | ok i =>
        rw [himport] at h
        cases h
        exact ⟨_, rfl, rfl, rfl⟩
    · rw [if_neg hlink] at h ⊢
      cases h
      exact ⟨_, rfl, hroot, himports⟩

/-- What is found among the nodes of a file does not depend on the file's name. -/
theorem gather_ok_of_file {file : Text} (file' : Text) {found found' : Findings}
    {nodes : List Node} {template : Template} (hroot : found'.root = found.root)
    (himports : found'.imports = found.imports)
    (h : (gather file found nodes).2 = .ok template) :
    (gather file' found' nodes).2 = .ok { template with file := file' } := by
  induction nodes generalizing found found' with
  | nil =>
    unfold gather at h ⊢
    rw [hroot, himports]
    cases hfound : found.root with
    | none =>
      rw [hfound] at h
      cases h
    | some root =>
      rw [hfound] at h
      cases h
      rfl
  | cons node nodes ih =>
    unfold gather at h ⊢
    cases hnode : node.element? with
    | none =>
      rw [hnode] at h
      exact ih hroot himports h
    | some e =>
      rw [hnode] at h
      simp only at h ⊢
      cases hadd : found.add file e with
      | error f =>
        rw [hadd] at h
        cases h
      | ok found₁ =>
        rw [hadd] at h
        obtain ⟨found₁', hadd', hroot', himports'⟩ :=
          Findings.add_ok_of_file file' hroot himports hadd
        rw [hadd']
        exact ih hroot' himports' h

/-- The module of a text does not depend on the name of its file. -/
theorem compile_ok_of_file {config : Config} {name file : Text} (file' : Text) {content : Text}
    {source : Text} (h : (compile config name file content).2 = .ok source) :
    (compile config name file' content).2 = .ok source := by
  unfold compile Template.parse at h ⊢
  cases hnodes : documentNodes file content with
  | error f =>
    rw [hnodes] at h
    cases h
  | ok nodes =>
    rw [hnodes] at h
    rw [documentNodes_ok_of_file file' hnodes]
    simp only at h ⊢
    rcases hgather : gather file {} nodes with ⟨notices, result⟩
    rw [hgather] at h
    cases result with
    | error f => cases h
    | ok template =>
      have hresult : (gather file {} nodes).2 = .ok template := by rw [hgather]
      have hsame := @gather_ok_of_file file file' {} {} nodes template rfl rfl hresult
      rcases hgather' : gather file' {} nodes with ⟨notices', result'⟩
      rw [hgather'] at hsame
      obtain rfl : result' = _ := hsame
      exact h

theorem Config.moduleOf_eq_ok {config : Config} {t : Path} {bytes : Text.Bytes} {source : Text}
    (h : config.moduleOf t bytes = .ok source) :
    ∃ text, Text.decode bytes = .ok text ∧
      (compile config (Jsx.componentName t.stem) t.toText text.unifyLineEnds).2 = .ok source := by
  unfold moduleOf at h
  split at h
  · next text htext => exact ⟨text, htext, h⟩
  · cases h

namespace World

variable {config : Config} {t : Path} {w w' : World} {source : Text} {f : Failure}

theorem moduleOf_eq_ok (ht : t.Straight) (h : w.moduleOf config t = .ok source) :
    ∃ bytes, w.files.at? t.parts = some (.file bytes) ∧ config.moduleOf t bytes = .ok source := by
  unfold moduleOf at h
  split at h
  · cases h
  · split at h
    · cases h
    · next bytes hread => exact ⟨bytes, Store.read_eq_ok ht hread, Host.moduleOf_eq_ok h⟩

/-- A file without a module: the system does not let it be read, or the host makes nothing of
what it holds. -/
theorem moduleOf_eq_error (ht : t.Straight) (h : w.moduleOf config t = .error f) :
    f.ofSystem = true ∨ ∃ bytes, w.files.at? t.parts = some (.file bytes) ∧
      w.host.moduleOf config t bytes = .error f := by
  unfold moduleOf at h
  split at h
  · cases h
    exact .inl rfl
  · split at h
    · cases h
      exact .inl rfl
    · next bytes hread => exact .inr ⟨bytes, Store.read_eq_ok ht hread, h⟩

/-- The module of a file depends on the file and the host only. -/
theorem moduleOf_congr (htree : w.files.Tree) (htree' : w'.files.Tree) (ht : t.Straight)
    (hhost : w'.host = w.host) {bytes : Text.Bytes}
    (hfile : w.files.at? t.parts = some (.file bytes))
    (hfile' : w'.files.at? t.parts = some (.file bytes)) :
    w'.moduleOf config t = w.moduleOf config t := by
  unfold moduleOf
  rw [htree.read_eq w.cwd w'.cwd htree' ht hfile hfile', hhost]

end World

/-! ## A template -/

/-- A small template. -/
def rule : Text.Bytes := Text.encode "<template><hr></template>"

/-- The module of the small template, with the name of its component. -/
def ruleModule (name : Text) : Text.Bytes :=
  Text.encode ("import React from 'react';\n\nexport default function " ++ name ++
    "(props) " ++ ['{'] ++ "\n  return (\n    <hr />\n  );\n" ++ ['}', '\n'])

end JsxTemplate
