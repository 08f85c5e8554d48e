import JsxTemplate.Proofs.Places

/-!
# Where modules go

The module of a template goes to the template's place below the output directory,
under another suffix. Templates with one suffix have different modules, and no
module has the suffix of templates unless the extension of modules ends in it.
-/

namespace JsxTemplate

namespace Text

/-- A cut before the last character of a kind: none of that kind follows it. -/
theorem cutLast?_eq_some {p : Char → Bool} : ∀ {s before rest : Text},
    cutLast? p s = some (before, rest) →
      ∃ c after, rest = c :: after ∧ p c = true ∧ ∀ d ∈ after, p d = false
  | [], _, _, h => by simp [cutLast?] at h
  | c :: s, before, rest, h => by
    unfold cutLast? at h
    split at h
    · next b r hb =>
      simp only [Option.some.injEq, Prod.mk.injEq] at h
      obtain ⟨-, rfl⟩ := h
      exact cutLast?_eq_some hb
    · next hnone =>
      split at h
      · next hc =>
        simp only [Option.some.injEq, Prod.mk.injEq] at h
        obtain ⟨-, rfl⟩ := h
        exact ⟨c, s, rfl, hc, cutLast?_eq_none hnone⟩
      · cases h
where
  cutLast?_eq_none {p : Char → Bool} : ∀ {s : Text}, cutLast? p s = none →
      ∀ d ∈ s, p d = false
    | [], _ => by simp
    | c :: s, h => by
      unfold cutLast? at h
      split at h
      · cases h
      · next hnone =>
        split at h
        · cases h
        · next hc =>
          intro d hd
          rcases List.mem_cons.mp hd with rfl | hd
          · exact Bool.eq_false_iff.mpr hc
          · exact cutLast?_eq_none hnone d hd

theorem cutLast?_append {p : Char → Bool} {c : Char} {after : Text} (hc : p c = true)
    (hafter : ∀ d ∈ after, p d = false) :
    ∀ before : Text, cutLast? p (before ++ c :: after) = some (before, c :: after)
  | [] => by
    have hnone : cutLast? p after = none := by
      cases h : cutLast? p after with
      | none => rfl
      | some found =>
        obtain ⟨before, rest⟩ := found
        obtain ⟨d, more, rfl, hd, -⟩ := cutLast?_eq_some h
        have hmem : d ∈ after := by simp [append_of_cutLast? h]
        rw [hafter d hmem] at hd
        cases hd
    rw [List.nil_append, cutLast?, hnone]
    exact if_pos hc
  | b :: before => by
    rw [List.cons_append, cutLast?, cutLast?_append hc hafter before]

end Text

namespace Path

theorem eq_of_parts {p q : Path} (hroot : p.root = q.root) (hparts : p.parts = q.parts) :
    p = q := by
  obtain ⟨root, parts⟩ := p
  obtain ⟨root', parts'⟩ := q
  rw [show root = root' from hroot, show parts = parts' from hparts]

/-! ## Stem and suffix -/

theorem stem_append_suffix (p : Path) : p.stem ++ p.suffix = p.name := by
  unfold stem suffix splitName
  split
  · next h => exact (Text.append_of_cutLast? h).symm
  · exact List.append_nil _

theorem stem_ne_nil {p : Path} (h : p.name ≠ []) : p.stem ≠ [] := by
  unfold stem splitName
  split
  · exact List.cons_ne_nil _ _
  · exact h

/-- A suffix is a dot and what follows it, without another dot. -/
theorem suffix_eq {p : Path} (h : p.suffix ≠ []) : ∃ x, p.suffix = '.' :: x ∧ '.' ∉ x := by
  unfold suffix splitName at h ⊢
  split at h
  · next hcut =>
    obtain ⟨e, after, heq, hdot, hafter⟩ := Text.cutLast?_eq_some hcut
    obtain ⟨rfl, rfl⟩ := List.cons_eq_cons.mp heq
    refine ⟨_, by rw [beq_iff_eq.mp hdot], fun hmem => ?_⟩
    exact absurd rfl (beq_eq_false_iff_ne.mp (hafter '.' hmem))
  · exact absurd rfl h

/-- A name that ends in a dotted word, and is more than that, has it as its suffix. -/
theorem suffix_of_name {p : Path} {x before : Text} (hx : '.' ∉ x) (hne : x ≠ [])
    (hbefore : before ≠ []) (hname : p.name = before ++ '.' :: x) :
    p.suffix = '.' :: x := by
  have hcut : Text.cutLast? (· == '.') p.name = some (before, '.' :: x) := by
    rw [hname]
    refine Text.cutLast?_append rfl (fun d hd => ?_) before
    exact beq_eq_false_iff_ne.mpr fun he => hx (he ▸ hd)
  obtain ⟨b, before, rfl⟩ := List.exists_cons_of_ne_nil hbefore
  obtain ⟨d, x, rfl⟩ := List.exists_cons_of_ne_nil hne
  unfold suffix splitName
  rw [hcut]

/-- A dotted word at the end of a text that ends in another one is at the end of
that one. -/
theorem dotted_suffix {x y stem : Text} (hx : '.' ∉ x) (h : '.' :: x <:+ stem ++ '.' :: y) :
    '.' :: x <:+ '.' :: y := by
  rcases List.suffix_or_suffix_of_suffix h (List.suffix_append _ _) with hxy | hyx
  · exact hxy
  · rcases List.suffix_cons_iff.mp hyx with heq | hmem
    · exact heq ▸ List.suffix_rfl
    · exact absurd (hmem.subset List.mem_cons_self) hx

theorem name_ne_nil_of_suffix {p : Path} (h : p.suffix ≠ []) : p.name ≠ [] := by
  intro hname
  rw [← stem_append_suffix, List.append_eq_nil_iff] at hname
  exact h hname.2

theorem parts_ne_nil {p : Path} (h : p.name ≠ []) : p.parts ≠ [] := by
  intro hnil
  rw [name, hnil] at h
  exact h rfl

theorem name_append (r : Root) (dir : List Text) {below : List Text} (h : below ≠ []) :
    (⟨r, dir ++ below⟩ : Path).name = below.getLast h := by
  rw [name, List.getLast?_append, List.getLast?_eq_some_getLast h, Option.some_or, Option.getD_some]

/-! ## The module of a template -/

variable {t t' src out target target' : Path} {extension : Text}

/-- What it takes to have a module: a template's place below the source directory
is taken below the output directory, and the name there gets the extension. -/
theorem output_eq_ok (h : t.output src out extension = .ok target) :
    ∃ below, t.root = src.root ∧ t.parts = src.parts ++ below ∧ suffixAllowed extension ∧
      (⟨out.root, out.parts ++ below⟩ : Path).name ≠ [] ∧
      target = ⟨out.root, (out.parts ++ below).dropLast ++
        [(⟨out.root, out.parts ++ below⟩ : Path).stem ++ extension]⟩ := by
  unfold output relativeTo at h
  split at h
  · next relative hrelative =>
    split at hrelative
    · next hbelow =>
      obtain ⟨hroot, hprefix⟩ := hbelow
      obtain ⟨below, hparts⟩ := List.isPrefixOf_iff_prefix.mp hprefix
      cases hrelative
      rw [← hparts, List.drop_left] at h
      unfold withSuffix at h
      split at h
      · next hallowed =>
        split at h
        · cases h
        · next hname =>
          cases h
          exact ⟨below, hroot, hparts.symm, hallowed, hname, rfl⟩
      · cases h
    · cases hrelative
  · cases h

theorem relativeTo_of_below {below : List Text} (hroot : t.root = src.root)
    (hparts : t.parts = src.parts ++ below) : t.relativeTo src = .ok ⟨.relative, below⟩ := by
  unfold relativeTo
  rw [hparts, List.drop_left, if_pos]
  exact ⟨hroot, List.isPrefixOf_iff_prefix.mpr (List.prefix_append _ _)⟩

/-- The source directory itself has a module if the other directory has a name. -/
theorem output_of_self (hroot : t.root = src.root) (hparts : t.parts = src.parts)
    (hname : out.name ≠ []) (hallowed : suffixAllowed extension) :
    t.output src out extension =
      .ok ⟨out.root, out.parts.dropLast ++ [out.stem ++ extension]⟩ := by
  unfold output
  rw [relativeTo_of_below hroot (hparts.trans (List.append_nil _).symm)]
  show withSuffix ⟨out.root, out.parts ++ []⟩ extension = _
  unfold withSuffix
  rw [if_pos hallowed, List.append_nil, if_neg hname]

/-- A named file below the source directory has a module. -/
theorem output_of_below {below : List Text} (hroot : t.root = src.root)
    (hparts : t.parts = src.parts ++ below) (hbelow : below ≠ []) (hname : t.name ≠ [])
    (hallowed : suffixAllowed extension) :
    t.output src out extension =
      .ok ⟨out.root, out.parts ++ below.dropLast ++ [t.stem ++ extension]⟩ := by
  have hsame : (⟨out.root, out.parts ++ below⟩ : Path).name = t.name := by
    rw [name_append _ _ hbelow, ← name_append t.root src.parts hbelow, ← hparts]
  unfold output
  rw [relativeTo_of_below hroot hparts]
  show withSuffix ⟨out.root, out.parts ++ below⟩ extension = _
  unfold withSuffix
  rw [if_pos hallowed, if_neg (hsame ▸ hname), List.dropLast_append_of_ne_nil hbelow]
  unfold stem
  rw [hsame]

theorem output_straight (hout : out.Straight) (ht : ['.', '.'] ∉ t.parts)
    (hdot : extension.head? = some '.') (h : t.output src out extension = .ok target) :
    target.Straight := by
  obtain ⟨below, -, hparts, hallowed, hname, rfl⟩ := output_eq_ok h
  refine ⟨hout.1, fun hmem => ?_⟩
  rcases List.mem_append.mp hmem with hmem | hmem
  · rcases List.mem_append.mp ((List.dropLast_subset _) hmem) with hmem | hmem
    · exact hout.2 hmem
    · exact ht (hparts ▸ List.mem_append_right _ hmem)
  · -- the stem and the extension have three characters at least
    have hlen := congrArg List.length (List.mem_singleton.mp hmem)
    have hstem := List.length_pos_iff.mpr (stem_ne_nil hname)
    obtain ⟨rest, rfl⟩ := List.head?_eq_some_iff.mp hdot
    have hrest : rest ≠ [] := by
      rintro rfl
      simp [suffixAllowed] at hallowed
    have hpos := List.length_pos_iff.mpr hrest
    simp only [List.length_append, List.length_cons, List.length_nil] at hlen
    omega

/-- Templates with one suffix have different modules. -/
theorem output_inj (h : t.output src out extension = .ok target)
    (h' : t'.output src out extension = .ok target') (hsuffix : t.suffix = t'.suffix)
    (hplace : target.parts = target'.parts) : t = t' := by
  obtain ⟨below, hroot, hparts, -, hname, rfl⟩ := output_eq_ok h
  obtain ⟨below', hroot', hparts', -, hname', rfl⟩ := output_eq_ok h'
  obtain ⟨hdirs, hlast⟩ := List.append_inj' hplace rfl
  have hstem := List.append_cancel_right (List.singleton_inj.mp hlast)
  suffices hsame : below = below' by
    refine eq_of_parts (hroot.trans hroot'.symm) ?_
    rw [hparts, hparts', hsame]
  have hlen : below.length = below'.length := by
    have hpos := List.length_pos_iff.mpr (parts_ne_nil hname)
    have hpos' := List.length_pos_iff.mpr (parts_ne_nil hname')
    have hsame := congrArg List.length hdirs
    simp only [List.length_dropLast, List.length_append] at hpos hpos' hsame
    omega
  by_cases hbelow : below = []
  · rw [hbelow, List.length_nil] at hlen
    rw [hbelow, List.length_eq_zero_iff.mp hlen.symm]
  · have hbelow' : below' ≠ [] := by
      intro hnil
      rw [hnil, List.length_nil, List.length_eq_zero_iff] at hlen
      exact hbelow hlen
    -- below the directory the module's name is made from the template's own
    have hown : (⟨out.root, out.parts ++ below⟩ : Path).name = t.name := by
      rw [name_append _ _ hbelow, ← name_append t.root src.parts hbelow, ← hparts]
    have hown' : (⟨out.root, out.parts ++ below'⟩ : Path).name = t'.name := by
      rw [name_append _ _ hbelow', ← name_append t'.root src.parts hbelow', ← hparts']
    have hnames : t.name = t'.name := by
      unfold stem at hstem
      rw [hown, hown'] at hstem
      rw [← stem_append_suffix t, ← stem_append_suffix t', hsuffix]
      exact congrArg (· ++ t'.suffix) hstem
    rw [List.dropLast_append_of_ne_nil hbelow, List.dropLast_append_of_ne_nil hbelow'] at hdirs
    rw [← hown, ← hown', name_append _ _ hbelow, name_append _ _ hbelow'] at hnames
    rw [← List.dropLast_concat_getLast hbelow, ← List.dropLast_concat_getLast hbelow',
      List.append_cancel_left hdirs, hnames]

/-- A module ends in a dotted word only if the extension does. -/
theorem suffix_extension_of_output {x : Text} (hx : '.' ∉ x)
    (hdot : extension.head? = some '.') (h : t.output src out extension = .ok target)
    (hends : '.' :: x <:+ target.name) : '.' :: x <:+ extension := by
  obtain ⟨below, -, -, -, -, rfl⟩ := output_eq_ok h
  obtain ⟨y, rfl⟩ := List.head?_eq_some_iff.mp hdot
  rw [name_append _ _ (List.cons_ne_nil _ _), List.getLast_singleton] at hends
  exact dotted_suffix hx hends

/-- No module has the suffix of templates unless the extension ends in it. -/
theorem output_suffix_ne {suffix : Text} (hsuffix : suffix.head? = some '.')
    (hdot : extension.head? = some '.') (hends : ¬ suffix <:+ extension)
    (h : t.output src out extension = .ok target) : target.suffix ≠ suffix := by
  rintro rfl
  have hne : target.suffix ≠ [] := by
    intro hnil
    rw [hnil] at hsuffix
    cases hsuffix
  obtain ⟨x, hx, hdots⟩ := suffix_eq hne
  refine hends (hx ▸ suffix_extension_of_output hdots hdot h ?_)
  rw [← hx, ← stem_append_suffix target]
  exact List.suffix_append _ _

/-! ## Resolved paths -/

theorem normalize_no_dots (parts : List Text) : ['.', '.'] ∉ normalize parts := by
  unfold normalize
  induction parts using List.reverseRecOn with
  | nil => exact List.not_mem_nil
  | append_singleton parts part ih =>
    rw [List.foldl_append, List.foldl_cons, List.foldl_nil]
    split
    · exact fun hmem => ih ((List.dropLast_subset _) hmem)
    · next hpart =>
      intro hmem
      rcases List.mem_append.mp hmem with hmem | hmem
      · exact ih hmem
      · exact hpart (List.mem_singleton.mp hmem).symm

theorem resolve_straight (cwd p : Path) : (cwd.resolve p).Straight :=
  ⟨Root.noConfusion, normalize_no_dots _⟩

theorem resolve?_eq_some {cwd p q : Path} :
    cwd.resolve? p = some q ↔ (cwd.join p).hasZero = false ∧ cwd.resolve p = q := by
  unfold resolve?
  cases (cwd.join p).hasZero <;> simp

theorem resolve_of_resolve? {cwd p q : Path} (h : cwd.resolve? p = some q) : cwd.resolve p = q :=
  (resolve?_eq_some.mp h).2

theorem straight_of_resolve? {cwd p q : Path} (h : cwd.resolve? p = some q) : q.Straight :=
  resolve_of_resolve? h ▸ resolve_straight cwd p

theorem hasZero_of_parent {p : Path} (h : p.parent.hasZero = true) : p.hasZero = true := by
  unfold hasZero at h ⊢
  rw [List.any_eq_true] at h ⊢
  obtain ⟨name, hname, hzero⟩ := h
  exact ⟨name, List.dropLast_subset _ hname, hzero⟩

theorem parent_no_zero {p : Path} (h : p.hasZero = false) : p.parent.hasZero = false :=
  Bool.eq_false_iff.mpr fun hparent => Bool.eq_false_iff.mp h (hasZero_of_parent hparent)

theorem outDirectory_straight {cwd S O : Path} {out : Option Path} (hS : S.Straight)
    (hO : (out.map cwd.resolve).getD S = O) : O.Straight := by
  cases out with
  | none => exact hO ▸ hS
  | some out => exact hO ▸ resolve_straight cwd out

/-! ## The order of paths -/

theorem toText_root_inj {r r' : Root} (h : r.toText = r'.toText) : r = r' := by
  cases r <;> cases r' <;> first | rfl | exact absurd h (by decide)

instance : Std.TransOrd Path :=
  inferInstanceAs (Std.TransCmp (compareLex (compareOn fun p : Path => p.root.toText)
    (compareOn Path.parts)))

instance : Std.LawfulEqOrd Path where
  eq_of_compare {p q} h := by
    obtain ⟨hroot, hparts⟩ := Ordering.then_eq_eq.mp h
    have hroot : p.root = q.root := toText_root_inj (Std.LawfulEqOrd.eq_of_compare hroot)
    exact eq_of_parts hroot (Std.LawfulEqOrd.eq_of_compare hparts)

/-- In a list in order no path occurs twice. -/
theorem nodup_of_ordered {ps : List Path} (h : ps.Pairwise fun p q => compare p q = .lt) :
    ps.Nodup := by
  refine h.imp fun {p q} hlt he => ?_
  have hself : compare p q = .eq := he ▸ Std.ReflCmp.compare_self
  rw [hself] at hlt
  cases hlt

/-- Paths can be put in order in one way only. -/
theorem eq_of_ordered {ps qs : List Path} (hps : ps.Pairwise fun p q => compare p q = .lt)
    (hqs : qs.Pairwise fun p q => compare p q = .lt) (hmem : ∀ p, p ∈ ps ↔ p ∈ qs) : ps = qs := by
  have hperm := (List.perm_ext_iff_of_nodup (nodup_of_ordered hps) (nodup_of_ordered hqs)).mpr hmem
  refine List.Perm.eq_of_pairwise (fun p q _ _ hlt hgt => ?_) hps hqs hperm
  rw [Std.OrientedCmp.gt_of_lt hlt] at hgt
  cases hgt

/-- Paths with one root are in the order of their names. -/
theorem compare_of_root {p q : Path} (h : p.root = q.root) :
    compare p q = compare p.parts q.parts := by
  show (compare p.root.toText q.root.toText).then (compare p.parts q.parts) = _
  have hroot : compare p.root.toText q.root.toText = .eq := by
    rw [h]
    exact Std.ReflCmp.compare_self
  rw [hroot, Ordering.eq_then]

end Path

theorem compare_append {α : Type} [Ord α] [Std.ReflOrd α] (same a b : List α) :
    compare (same ++ a) (same ++ b) = compare a b := by
  induction same with
  | nil => rfl
  | cons first same ih =>
    have hself : compare first first = .eq := Std.ReflCmp.compare_self
    rw [List.cons_append, List.cons_append, List.compare_cons_cons, hself, ih, Ordering.eq_then]

end JsxTemplate
