import JsxTemplate.Proofs.Outputs

/-!
# Modules that collide

The module of a template stands below the output directory where the template stands below
its own. Two templates have one module in a single case: a file whose name is nothing but
the suffix of templates has no suffix to lose, and so keeps all of its name, which is what
the file called by the suffix twice keeps as well.
-/

namespace JsxTemplate.Path

variable {p q src out : Path} {a b suffix extension : Text}

/-- A file somewhere below a directory. -/
structure Below (dir file : Path) : Prop where
  root : file.root = dir.root
  parts : ∃ names, names ≠ [] ∧ file.parts = dir.parts ++ names

/-! ## The stem of a name -/

/-- A name is parted at its last dot, unless this is its first or its last character. -/
theorem splitName_append {before x : Text} (hx : '.' ∉ x) :
    splitName (before ++ '.' :: x) =
      if before = [] ∨ x = [] then (before ++ '.' :: x, []) else (before, '.' :: x) := by
  have hcut : Text.cutLast? (· == '.') (before ++ '.' :: x) = some (before, '.' :: x) := by
    refine Text.cutLast?_append rfl (fun d hd => ?_) before
    exact beq_eq_false_iff_ne.mpr fun he => hx (he ▸ hd)
  unfold splitName
  rw [hcut]
  cases before with
  | nil => rfl
  | cons b before =>
    cases x with
    | nil => rfl
    | cons d x => rfl

/-- A text that begins with a dot has a last one. What stands before that, if anything, has
the first. -/
theorem exists_last_dot (h : suffix.head? = some '.') :
    ∃ front x, suffix = front ++ '.' :: x ∧ '.' ∉ x ∧ (front ≠ [] → '.' ∈ front) := by
  cases hcut : Text.cutLast? (· == '.') suffix with
  | none =>
    have hdot := Text.cutLast?_eq_some.cutLast?_eq_none hcut '.' (List.mem_of_head? h)
    cases hdot
  | some found =>
    obtain ⟨front, rest⟩ := found
    obtain ⟨d, x, rfl, hd, hx⟩ := Text.cutLast?_eq_some hcut
    rw [beq_iff_eq.mp hd] at hcut
    have hsplit := Text.append_of_cutLast? hcut
    refine ⟨front, x, hsplit, fun hmem => absurd rfl (beq_eq_false_iff_ne.mp (hx '.' hmem)), ?_⟩
    intro hfront
    obtain ⟨c, front, rfl⟩ := List.exists_cons_of_ne_nil hfront
    rw [hsplit] at h
    rw [Option.some.inj h]
    exact List.mem_cons_self

/-- Two names with one suffix have one stem only if this is a dotted word, and one of them
is the word and the other the word twice. -/
theorem stem_eq_iff (hdot : suffix.head? = some '.') (hne : a ≠ b) :
    (splitName (a ++ suffix)).1 = (splitName (b ++ suffix)).1 ↔
      suffix.count '.' = 1 ∧ 1 < suffix.length ∧ (a = [] ∧ b = suffix ∨ a = suffix ∧ b = []) := by
  obtain ⟨front, x, rfl, hx, hfront⟩ := exists_last_dot hdot
  have hcount : (front ++ '.' :: x).count '.' = front.count '.' + 1 := by
    rw [List.count_append, List.count_cons_self, List.count_eq_zero.mpr hx]
  have hsplit : ∀ before, splitName (before ++ (front ++ '.' :: x)) =
      if before ++ front = [] ∨ x = [] then (before ++ (front ++ '.' :: x), [])
      else (before ++ front, '.' :: x) := by
    intro before
    rw [← List.append_assoc, splitName_append hx]
  have hmore : front ≠ [] → 1 < (front ++ '.' :: x).count '.' := by
    intro hne
    have hpos := List.count_pos_iff.mpr (hfront hne)
    omega
  rw [hsplit, hsplit]
  by_cases hlast : x = []
  · -- the dot is the last character: the stem is the whole name
    simp only [hlast, or_true, ↓reduceIte]
    refine iff_of_false (fun h => hne (List.append_cancel_right h)) fun ⟨hone, hlong, _⟩ => ?_
    have hnil : front = [] := by
      by_contra hcons
      have := hmore hcons
      rw [hlast] at this
      omega
    rw [hnil] at hlong
    exact absurd hlong (by decide)
  · by_cases hnil : front = []
    · -- a dotted word: the stem is what stands before it, or the word if nothing does
      subst hnil
      have hlong := List.length_pos_iff.mpr hlast
      simp only [hlast, or_false, List.append_nil, List.nil_append] at hcount ⊢
      rw [hcount]
      by_cases ha : a = []
      · have hb : b ≠ [] := fun hb => hne (ha.trans hb.symm)
        simp [ha, hb, hlong, eq_comm]
      · by_cases hb : b = []
        · simp [ha, hb, hlong]
        · simp [ha, hb, hne]
    · -- more than one dot: the last one is not the first character, whatever stands before
      have hfilled : ∀ before : Text, before ++ front ≠ [] := fun before h =>
        hnil (List.append_eq_nil_iff.mp h).2
      simp only [hfilled, hlast, or_false, ↓reduceIte]
      refine iff_of_false (fun h => hne (List.append_cancel_right h)) fun ⟨hone, _⟩ => ?_
      have := hmore hnil
      omega

/-! ## The place of a module -/

theorem eq_of_parent (hp : p.parts ≠ []) (hq : q.parts ≠ []) (hparent : p.parent = q.parent)
    (hname : p.name = q.name) : p = q := by
  obtain ⟨hroot, hdirs⟩ := Path.mk.inj hparent
  refine eq_of_parts hroot ?_
  rw [name, name, List.getLast?_eq_some_getLast hp, List.getLast?_eq_some_getLast hq] at hname
  rw [← List.dropLast_concat_getLast hp, ← List.dropLast_concat_getLast hq, hdirs]
  exact congrArg (fun last => q.parts.dropLast ++ [last]) hname

theorem relativeTo_append (dir : Path) (names : List Text) :
    relativeTo ⟨dir.root, dir.parts ++ names⟩ dir = .ok ⟨.relative, names⟩ := by
  rw [relativeTo, if_pos, List.drop_left]
  exact ⟨rfl, List.isPrefixOf_iff_prefix.mpr (List.prefix_append _ _)⟩

/-- The names that lead to a file below the one directory lead to its module below the other. -/
theorem Below.exists_output (h : Below src p) (hname : p.name ≠ [])
    (hallowed : suffixAllowed extension) (out : Path) :
    ∃ names, p.parent = ⟨src.root, src.parts ++ names⟩ ∧
      p.output src out extension = .ok ⟨out.root, out.parts ++ names ++ [p.stem ++ extension]⟩ := by
  obtain ⟨names, hne, hparts⟩ := h.parts
  refine ⟨names.dropLast, ?_, output_of_below h.root hparts hne hname hallowed⟩
  rw [parent, hparts, List.dropLast_append_of_ne_nil hne, ← h.root]

theorem name_ne_nil_of_dotted (hdot : suffix.head? = some '.') (hends : suffix <:+ p.name) :
    p.name ≠ [] := by
  intro hnil
  rw [hnil, List.suffix_nil] at hends
  rw [hends] at hdot
  cases hdot

/-- The modules of two templates stand where the templates do, and they are one file in one
case only: one template is called by the suffix of templates alone and the other, in the same
directory, by this suffix twice, and the suffix is a dotted word. -/
theorem outputs_collide_iff (src out : Path) (hdot : suffix.head? = some '.')
    (hallowed : suffixAllowed extension) (hp : Below src p) (hq : Below src q)
    (hpname : suffix <:+ p.name) (hqname : suffix <:+ q.name) (hne : p ≠ q) :
    ∃ pdir qdir ptarget qtarget,
      p.parent.relativeTo src = .ok pdir ∧ q.parent.relativeTo src = .ok qdir ∧
      p.output src out extension = .ok ptarget ∧ q.output src out extension = .ok qtarget ∧
      ptarget.parent = out.join pdir ∧ qtarget.parent = out.join qdir ∧
      (ptarget = qtarget ↔
        p.parent = q.parent ∧ suffix.count '.' = 1 ∧ 1 < suffix.length ∧
          (p.name = suffix ∧ q.name = suffix ++ suffix ∨
            p.name = suffix ++ suffix ∧ q.name = suffix)) := by
  have hpnamed := name_ne_nil_of_dotted hdot hpname
  have hqnamed := name_ne_nil_of_dotted hdot hqname
  obtain ⟨names, hpparent, hpout⟩ := hp.exists_output hpnamed hallowed out
  obtain ⟨others, hqparent, hqout⟩ := hq.exists_output hqnamed hallowed out
  have hmodule : ∀ (below : List Text) (last : Text),
      parent ⟨out.root, out.parts ++ below ++ [last]⟩ = out.join ⟨.relative, below⟩ := by
    intro below last
    rw [parent, List.dropLast_concat]
    rfl
  refine ⟨_, _, _, _, by rw [hpparent, relativeTo_append], by rw [hqparent, relativeTo_append],
    hpout, hqout, hmodule _ _, hmodule _ _, ?_⟩
  have hdirs : p.parent = q.parent ↔ names = others := by
    rw [hpparent, hqparent, Path.mk.injEq, List.append_right_inj, and_iff_right rfl]
  have hplaces : out.parts ++ names ++ [p.stem ++ extension] =
      out.parts ++ others ++ [q.stem ++ extension] ↔ names = others ∧ p.stem = q.stem := by
    constructor
    · intro h
      obtain ⟨hnames, hlast⟩ := List.append_inj' h rfl
      exact ⟨List.append_cancel_left hnames, List.append_cancel_right (List.singleton_inj.mp hlast)⟩
    · rintro ⟨rfl, hstem⟩
      rw [hstem]
  rw [Path.mk.injEq, and_iff_right rfl, hplaces, hdirs]
  refine and_congr_right fun hsame => ?_
  obtain ⟨a, ha⟩ := hpname
  obtain ⟨b, hb⟩ := hqname
  have hapart : a ≠ b := by
    rintro rfl
    exact hne (eq_of_parent (parts_ne_nil hpnamed) (parts_ne_nil hqnamed) (hdirs.mpr hsame)
      (ha.symm.trans hb))
  have hstem := stem_eq_iff hdot hapart
  rw [ha, hb] at hstem
  rw [stem, stem, hstem, ← ha, ← hb]
  simp

/-- The file `.html` and the file `.html.html` beside it, a directory deep. -/
theorem bareSuffix_collides :
    Below ⟨.slash, ["s"]⟩ ⟨.slash, ["s", "a", ".html"]⟩ ∧
    Below ⟨.slash, ["s"]⟩ ⟨.slash, ["s", "a", ".html.html"]⟩ ∧
    (".html".toList <:+ ".html".toList ∧ ".html".toList <:+ ".html.html".toList) ∧
    ∃ target : Path, target.parent = ⟨.slash, ["o", "a"]⟩ ∧
      output ⟨.slash, ["s", "a", ".html"]⟩ ⟨.slash, ["s"]⟩ ⟨.slash, ["o"]⟩ ".jsx" = .ok target ∧
      output ⟨.slash, ["s", "a", ".html.html"]⟩ ⟨.slash, ["s"]⟩ ⟨.slash, ["o"]⟩ ".jsx" =
        .ok target := by
  have hp : Below ⟨.slash, ["s"]⟩ ⟨.slash, ["s", "a", ".html"]⟩ :=
    ⟨rfl, ["a", ".html"], by simp, rfl⟩
  have hq : Below ⟨.slash, ["s"]⟩ ⟨.slash, ["s", "a", ".html.html"]⟩ :=
    ⟨rfl, ["a", ".html.html"], by simp, rfl⟩
  have hpname : ".html".toList <:+ ".html".toList := List.suffix_rfl
  have hqname : ".html".toList <:+ ".html.html".toList := ⟨".html", by decide⟩
  have hallowed : suffixAllowed ".jsx" = true := by decide
  obtain ⟨pdir, _, target, _, hdir, -, hpout, hqout, hparent, -, hiff⟩ :=
    outputs_collide_iff ⟨.slash, ["s"]⟩ ⟨.slash, ["o"]⟩ (by decide) hallowed
      hp hq hpname hqname (by decide)
  obtain rfl := hiff.mpr (by decide)
  refine ⟨hp, hq, ⟨hpname, hqname⟩, target, ?_, hpout, hqout⟩
  rw [hparent]
  cases hdir
  rfl

end JsxTemplate.Path
