import JsxTemplate.Proofs.Strict

/-!
# The texts of a control

A control takes its condition, its array and the name of an item from attributes that are
not blank. A value that is one binding gives its expression; any other is written into the
code as it is, with the spans that it holds. So none of these texts is blank, but spans are
left in the code by every value that holds one and is not a single binding.
-/

namespace JsxTemplate

open Binding Jsx

namespace Part

/-! ## Spans in a text -/

/-- Somewhere in the text a span is opened and closed, whatever stands in it. -/
def HoldsSpan (s : Text) : Prop :=
  ∃ before inner after, s = before ++ openMark ++ inner ++ closeMark ++ after

theorem holdsSpan_iff {s : Text} : HoldsSpan s ↔ (firstSpan? s).isSome = true := by
  constructor
  · rintro ⟨before, inner, after, hs⟩
    refine Option.isSome_iff_ne_none.mpr fun hnone => ?_
    refine @not_closed_of_firstSpan? s inner after hnone ⟨before, ?_⟩
    simp only [hs, List.append_assoc]
  · intro h
    obtain ⟨⟨before, inner, after⟩, hfound⟩ := Option.isSome_iff_exists.mp h
    exact ⟨before, inner, after, append_of_firstSpan? hfound⟩

instance (s : Text) : Decidable (HoldsSpan s) := decidable_of_iff _ holdsSpan_iff.symm

/-- Braces are no blanks, so trimming takes no span away. -/
theorem holdsSpan_trim {s : Text} : HoldsSpan s.trim ↔ HoldsSpan s := by
  rw [holdsSpan_iff, holdsSpan_iff, Option.isSome_iff_ne_none, Option.isSome_iff_ne_none]
  exact not_congr ⟨firstSpan?_eq_none_of_words (Text.words_trim s),
    firstSpan?_eq_none_of_words (Text.words_trim s).symm⟩

theorem blank_trim (s : Text) : s.trim.blank = s.blank := blank_of_words (Text.words_trim s)

/-- Nothing is closed inside a strict value, so no span is left there. -/
theorem Strict.not_holdsSpan {v : Text} (h : Strict v) : ¬ HoldsSpan (inside v) := by
  rintro ⟨before, inner, after, hinside⟩
  have hstrict := h
  rw [h.eq_span] at hstrict
  refine ((strict_span_iff _).mp hstrict).1 (List.IsInfix.trans ?_ (List.prefix_append _ _).isInfix)
  exact ⟨before ++ openMark ++ inner, after, hinside.symm⟩

end Part

/-! ## Unwrapped values -/

/-- What becomes of a value that a control takes its text from: the text is not blank, and
it holds a span if and only if the value does and is not strict. Then it is the value. -/
structure Unwrapped (value : Text) : Prop where
  filled : (unwrap value).blank = false
  span_iff : Part.HoldsSpan (unwrap value) ↔ Part.HoldsSpan value ∧ ¬ Part.Strict value
  kept : ¬ Part.Strict value → unwrap value = value.trim

theorem unwrapped_of_filled {value : Text} (h : value.blank = false) : Unwrapped value := by
  by_cases hstrict : Part.Strict value
  · have hunwrap := (unwrap_eq value).trans (if_pos hstrict)
    refine ⟨?_, ?_, fun hnot => absurd hstrict hnot⟩
    · rw [hunwrap, Part.blank_trim]
      exact hstrict.filled
    · rw [hunwrap, Part.holdsSpan_trim]
      exact iff_of_false hstrict.not_holdsSpan fun hspan => hspan.2 hstrict
  · have hunwrap := (unwrap_eq value).trans (if_neg hstrict)
    refine ⟨?_, ?_, fun _ => hunwrap⟩
    · rw [hunwrap, Part.blank_trim]
      exact h
    · rw [hunwrap, Part.holdsSpan_trim]
      exact (and_iff_left hstrict).symm

/-! ## Accepted controls -/

namespace Element

variable {e : Element}

/-- What goes on after an attribute that must not be blank has its value. -/
theorem required_bind_eq_ok {α : Type} {attr : Text} {value : Option Text}
    {f : Text → Except RenderFault α} {a : α} (h : e.required attr value >>= f = .ok a) :
    ∃ text, value = some text ∧ text.blank = false ∧ f text = .ok a := by
  cases value with
  | none => cases h
  | some text =>
    cases hblank : text.blank with
    | true =>
      simp only [required, hblank, ↓reduceIte] at h
      cases h
    | false =>
      simp only [required, hblank] at h
      exact ⟨text, rfl, hblank, h⟩

/-- An accepted control is a condition or a loop, and its attributes are not blank. -/
theorem control_eq_ok {c : Control} (h : e.control = .ok c) :
    (∃ test, e.attrs.get? "test" = some (some test) ∧ test.blank = false ∧
      c = .conditional test) ∨
    ∃ array item, e.attrs.get? "test" = none ∧ e.attrs.get? "array" = some (some array) ∧
      e.attrs.get? "item-name" = some (some item) ∧ array.blank = false ∧ item.blank = false ∧
      c = .loop array item := by
  by_cases hcount : e.children.length = 1
  · unfold control at h
    rw [if_neg (not_not_intro hcount)] at h
    split at h
    · next htest =>
      obtain ⟨test, rfl, hfilled, hc⟩ := required_bind_eq_ok h
      cases hc
      exact .inl ⟨test, htest, hfilled, rfl⟩
    · next htest harray hitem =>
      obtain ⟨array, rfl, hfirst, hrest⟩ := required_bind_eq_ok h
      obtain ⟨item, rfl, hfilled, hc⟩ := required_bind_eq_ok hrest
      cases hc
      exact .inr ⟨array, item, htest, harray, hitem, hfirst, hfilled, rfl⟩
    · cases h
  · rw [control_of_count hcount] at h
    cases h

end Element

/-- A rendered control is its child between the lines that its attributes give. -/
theorem asControl_of_ok {e : Element} {c : Control} (h : e.control = .ok c) (r : Renderer)
    (indent : Text) (direct : Bool) :
    r.asControl indent direct e =
      (r.nodes (r.unit ++ indent) true e.children).map fun child =>
        indent ++ (if direct then [] else ['{', ' ']) ++ (controlLines c).1 ++ child ++ indent ++
          (controlLines c).2 ++ (if direct then [] else [' ', '}']) ++ "\n" := by
  rw [Renderer.asControl, controlBlock, h]
  cases r.nodes (r.unit ++ indent) true e.children with
  | error f => rfl
  | ok child =>
    cases direct with
    | true =>
      simp only [↓reduceIte, List.append_nil]
      rfl
    | false => rfl

/-- The texts that an accepted control writes into the code for its attributes. None is
blank. A span is left in one of them if and only if the attribute's value holds a span and
is not strict. Such a control is rendered like any other: it fails only where its child
does. -/
theorem control_texts_keep_spans_iff {e : Element} {c : Control} (h : e.control = .ok c) :
    ((∃ test, e.attrs.get? "test" = some (some test) ∧ Unwrapped test ∧
        controlLines c = ("(" ++ unwrap test ++ ") && (\n", [')'])) ∨
      ∃ array item, e.attrs.get? "test" = none ∧ e.attrs.get? "array" = some (some array) ∧
        e.attrs.get? "item-name" = some (some item) ∧ Unwrapped array ∧ Unwrapped item ∧
        controlLines c = (unwrap array ++ ".map(" ++ unwrap item ++ " => (\n", [')', ')'])) ∧
    ∀ (r : Renderer) (indent : Text) (direct : Bool),
      r.asControl indent direct e =
        (r.nodes (r.unit ++ indent) true e.children).map fun child =>
          indent ++ (if direct then [] else ['{', ' ']) ++ (controlLines c).1 ++ child ++
            indent ++ (controlLines c).2 ++ (if direct then [] else [' ', '}']) ++ "\n" := by
  refine ⟨?_, asControl_of_ok h⟩
  rcases Element.control_eq_ok h with ⟨test, htest, hfilled, rfl⟩ |
    ⟨array, item, htest, harray, hitem, hfirst, hfilled, rfl⟩
  · exact .inl ⟨test, htest, unwrapped_of_filled hfilled, rfl⟩
  · exact .inr ⟨array, item, htest, harray, hitem, unwrapped_of_filled hfirst,
      unwrapped_of_filled hfilled, rfl⟩

/-- A control with the given attributes around a rule. -/
def aroundRule (attrs : Attrs) : Element := ⟨controlName, attrs, [.element "hr" [] [] 2], 1⟩

def itemsArray : Text := "{{ items }}"

theorem itemsArray_texts :
    (aroundRule [("array", some itemsArray), ("item-name", some ['i'])]).control =
      .ok (.loop itemsArray ['i']) ∧
    Unwrapped itemsArray ∧ Unwrapped ['i'] := by
  have hcontrol : (aroundRule [("array", some itemsArray), ("item-name", some ['i'])]).control =
      .ok (.loop itemsArray ['i']) := by
    rw [Element.control_of_loop rfl rfl rfl rfl, if_neg (by decide), if_neg (by decide)]
  refine ⟨hcontrol, ?_⟩
  rcases (control_texts_keep_spans_iff hcontrol).1 with ⟨test, htest, -⟩ |
    ⟨array, item, -, harray, hitem, hunwrapped, hplain, -⟩
  · cases htest
  · cases harray
    cases hitem
    exact ⟨hunwrapped, hplain⟩

/-- An operator between two bindings. -/
def eitherTest : Text := "{{ a }} || {{ b }}"

/-- A binding with nothing in it. -/
def hollowTest : Text := "{{ }}"

/-- Both are accepted as conditions and go into the code with their braces. -/
theorem tests_left_unresolved :
    (aroundRule [("test", some eitherTest)]).control = .ok (.conditional eitherTest) ∧
    Part.HoldsSpan (unwrap eitherTest) ∧
    (({} : Renderer).asControl [] true (aroundRule [("test", some eitherTest)])).toOption =
      some "({{ a }} || {{ b }}) && (\n  <hr />\n)\n".toList ∧
    (aroundRule [("test", some hollowTest)]).control = .ok (.conditional hollowTest) ∧
    Part.HoldsSpan (unwrap hollowTest) ∧
    (({} : Renderer).asControl [] true (aroundRule [("test", some hollowTest)])).toOption =
      some "({{ }}) && (\n  <hr />\n)\n".toList := by
  refine ⟨?_, by decide +kernel, by decide +kernel, ?_, by decide +kernel, by decide +kernel⟩
  · rw [Element.control_of_test rfl rfl, if_neg (by decide)]
  · rw [Element.control_of_test rfl rfl, if_neg (by decide)]

end JsxTemplate
