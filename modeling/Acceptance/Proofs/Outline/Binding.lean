import Mathlib.Data.List.Forall2
import Acceptance.Step

/-!
# Binding steps in order

Whatever makes steps binds them one after the other, and stops at the first one that several definitions
match. `Registry.Binds` says that of a computation: which steps it binds, in which order, and what holds of
its result where none of them is ambiguous. It is a case of `Logged.Passes`, whose rules for sequences and for
lists carry it from a single step to everything that is made of steps.
-/

set_option autoImplicit false

namespace Acceptance

/-! ## Obstacles in order -/

namespace Logged

variable {ε α β ι : Type}

/-- A computation that meets obstacles in order: it fails with the fault of the first one that has any, and if
none has, it has a result with the given property. -/
def Passes (fault? : ι → Option ε) (obstacles : List ι) (x : Logged ε α) (P : α → Prop) : Prop :=
  (∃ fault, obstacles.findSome? fault? = some fault ∧ x.result = .error fault) ∨
    obstacles.findSome? fault? = none ∧ ∃ value, x.result = .ok value ∧ P value

namespace Passes

variable {fault? : ι → Option ε} {first second : List ι} {x : Logged ε α} {P : α → Prop} {Q : β → Prop}

/-- What has a result meets no obstacle. -/
theorem pure {value : α} (h : P value) : (Logged.pure value : Logged ε α).Passes fault? [] P :=
  .inr ⟨rfl, value, rfl, h⟩

/-- **In sequence** obstacles are met in the order of the sequence. -/
theorem bind {f : α → Logged ε β} (hx : x.Passes fault? first P)
    (hf : ∀ value, P value → (f value).Passes fault? second Q) :
    (x.bind f).Passes fault? (first ++ second) Q := by
  rcases hx with ⟨fault, hfirst, hx⟩ | ⟨hfirst, value, hx, hvalue⟩
  · refine .inl ⟨fault, ?_, by rw [Logged.bind, hx]⟩
    rw [List.findSome?_append, hfirst, Option.some_or]
  · have hresult : (x.bind f).result = (f value).result := by rw [Logged.bind, hx]
    rw [Passes, hresult, List.findSome?_append, hfirst, Option.none_or]
    exact hf value hvalue

/-- What holds of the result may be weakened. -/
theorem imp {P' : α → Prop} (hx : x.Passes fault? first P) (h : ∀ value, P value → P' value) :
    x.Passes fault? first P' := by
  rcases hx with hfails | ⟨hfirst, value, hx, hvalue⟩
  · exact .inl hfails
  · exact .inr ⟨hfirst, value, hx, h value hvalue⟩

/-- A result has the property. -/
theorem of_ok {value : α} (hx : x.Passes fault? first P) (h : x.result = .ok value) : P value := by
  rcases hx with ⟨fault, -, herror⟩ | ⟨-, value', hok, hvalue⟩
  · rw [herror] at h
    cases h
  · rw [hok] at h
    cases h
    exact hvalue

/-- A failure is that of the first obstacle with a fault. -/
theorem of_error {fault : ε} (hx : x.Passes fault? first P) (h : x.result = .error fault) :
    first.findSome? fault? = some fault := by
  rcases hx with ⟨fault', hfirst, herror⟩ | ⟨-, value, hok, -⟩
  · rw [h] at herror
    cases herror
    exact hfirst
  · rw [h] at hok
    cases hok

/-- Where there is a result, no obstacle has a fault. -/
theorem forall_eq_none {value : α} (hx : x.Passes fault? first P) (h : x.result = .ok value) :
    ∀ obstacle ∈ first, fault? obstacle = none := by
  rcases hx with ⟨fault, -, herror⟩ | ⟨hfirst, -⟩
  · rw [herror] at h
    cases h
  · exact List.findSome?_eq_none_iff.mp hfirst

/-- What comes of the result meets nothing more. -/
theorem map {f : α → β} (hx : x.Passes fault? first P) (hf : ∀ value, P value → Q (f value)) :
    (x.bind fun value => .pure (f value)).Passes fault? first Q := by
  have hpure (value : α) (hvalue : P value) : (Logged.pure (f value) : Logged ε β).Passes fault? [] Q :=
    .pure (hf value hvalue)
  have hpasses := hx.bind hpure
  rwa [List.append_nil] at hpasses

/-- **For every member of a list** obstacles are met in the order of the list. -/
theorem traverse {γ : Type} {f : γ → Logged ε β} {obstacles : γ → List ι} {R : γ → β → Prop}
    (h : ∀ a, (f a).Passes fault? (obstacles a) (R a)) (as : List γ) :
    (Logged.traverse f as).Passes fault? (as.flatMap obstacles) (List.Forall₂ R as) := by
  induction as with
  | nil => exact pure .nil
  | cons a as ih =>
    rw [List.flatMap_cons, Logged.traverse_cons]
    refine (h a).bind fun b hb => ?_
    exact ih.map fun bs hbs => .cons hb hbs

/-- The same obstacles under other names, with their faults told otherwise. -/
theorem mapError {ε' κ : Type} {rename : ι → κ} {tell : ε → ε'} {told? : κ → Option ε'}
    (hx : x.Passes fault? first P) (h : ∀ obstacle, told? (rename obstacle) = (fault? obstacle).map tell) :
    (x.mapError tell).Passes told? (first.map rename) P := by
  have hfirst : (first.map rename).findSome? told? = (first.findSome? fault?).map tell := by
    rw [List.findSome?_map, List.map_findSome?]
    congr 1
    funext obstacle
    exact h obstacle
  rcases hx with ⟨fault, hfault, herror⟩ | ⟨hnone, value, hok, hvalue⟩
  · refine .inl ⟨tell fault, by rw [hfirst, hfault, Option.map_some], ?_⟩
    rw [Logged.mapError, herror]
    rfl
  · refine .inr ⟨by rw [hfirst, hnone, Option.map_none], value, ?_, hvalue⟩
    rw [Logged.mapError, hok]
    rfl

end Passes

end Logged

variable {W : Type}

namespace Registry

/-- The definitions that a step matches, in their order. -/
def matching (r : Registry W) (keyword : Keyword) (text : String) : List (Definition W) :=
  r.definitions.filter fun d => (d.pattern.search (subject keyword text)).isSome

/-- Whether a step matches two definitions or more. -/
def IsAmbiguous (r : Registry W) (keyword : Keyword) (text : String) : Prop :=
  2 ≤ (r.matching keyword text).length

instance (r : Registry W) (keyword : Keyword) (text : String) : Decidable (r.IsAmbiguous keyword text) :=
  inferInstanceAs (Decidable (2 ≤ _))

/-- What is reported of an ambiguous step: the step, and the patterns of the definitions that it
matches. -/
def ambiguity (r : Registry W) (keyword : Keyword) (text : String) : Ambiguity :=
  ⟨subject keyword text, (r.matching keyword text).map fun d => d.pattern.source⟩

section Resolve

variable (r : Registry W) (keyword : Keyword) (text : String)

/-- The definitions of the hits are those that match. -/
theorem map_definition_hits :
    (r.hits (subject keyword text)).map Binding.definition = r.matching keyword text := by
  unfold hits matching
  rw [List.map_filterMap, ← List.filterMap_eq_filter]
  congr 1
  funext d
  cases hsearch : d.pattern.search (subject keyword text) <;> simp [hsearch, Option.guard]

/-- **A step is bound unless it is ambiguous.** -/
theorem resolve_cases :
    (r.IsAmbiguous keyword text ∧ r.resolve keyword text = .error (r.ambiguity keyword text)) ∨
      (¬ r.IsAmbiguous keyword text ∧ ∃ binding, r.resolve keyword text = .ok binding) := by
  have hmatching := map_definition_hits r keyword text
  unfold IsAmbiguous ambiguity resolve
  rw [← hmatching, List.length_map, List.map_map]
  dsimp only
  match r.hits (subject keyword text) with
  | [] => exact .inr ⟨by simp, none, rfl⟩
  | [binding] => exact .inr ⟨by simp, some binding, rfl⟩
  | _ :: _ :: _ => exact .inl ⟨by simp, rfl⟩

end Resolve

/-- The ambiguity of a step, given by its keyword and text, nothing where it is not ambiguous. -/
def ambiguity? (r : Registry W) (step : Keyword × String) : Option Ambiguity :=
  if r.IsAmbiguous step.1 step.2 then some (r.ambiguity step.1 step.2) else none

/-- A step has no ambiguity to report if it is not ambiguous. -/
theorem ambiguity?_eq_none {r : Registry W} {step : Keyword × String} :
    r.ambiguity? step = none ↔ ¬ r.IsAmbiguous step.1 step.2 := by
  simp [ambiguity?]

/-- A computation that binds steps in order: it fails with the first ambiguous one, and if there is none, it
has a result with the given property. -/
def Binds {α : Type} (r : Registry W) (steps : List (Keyword × String)) (x : Logged Ambiguity α)
    (P : α → Prop) : Prop :=
  x.Passes r.ambiguity? steps P

end Registry

/-! ## Single steps -/

namespace Step

variable {r : Registry W}

/-- What a template becomes when the placeholders in it are replaced: everything but its keyword is filled,
and it is bound by its new text. -/
structure IsFill (values : Substitution) (r : Registry W) (template filled : Step W) : Prop where
  keyword : filled.keyword = template.keyword
  text : filled.text = values.apply template.text
  multilines : filled.multilines = template.multilines.map fun lines => lines.map values.apply
  table : filled.table = template.table.map fun t =>
    ⟨t.keys.map values.apply, t.rows.map fun cells => cells.map values.apply⟩
  binding : r.resolve template.keyword (values.apply template.text) = .ok filled.binding

/-- The keyword and the filled text of a template, by which it is bound. -/
def filledText (values : Substitution) (template : Step W) : Keyword × String :=
  (template.keyword, values.apply template.text)

/-- A step that is made has the text that it was made of and the binding that this text resolves to. -/
theorem make_binds (keyword : Keyword) (text : String) :
    r.Binds [(keyword, text)] (make keyword text r) fun made =>
      made.toStepText = ⟨keyword, text, none, none⟩ ∧ r.resolve keyword text = .ok made.binding := by
  unfold make
  rcases r.resolve_cases keyword text with ⟨hambiguous, hresolve⟩ | ⟨hone, binding, hresolve⟩
  · rw [hresolve]
    exact .inl ⟨_, by simp [Registry.ambiguity?, hambiguous], rfl⟩
  · rw [hresolve]
    refine .inr ⟨by simp [Registry.ambiguity?, hone], ?_⟩
    cases binding with
    | none => exact ⟨_, rfl, rfl, rfl⟩
    | some binding => exact ⟨_, rfl, rfl, rfl⟩

/-- **A step is filled** unless its filled text is ambiguous. -/
theorem fill_binds (values : Substitution) (template : Step W) :
    r.Binds [template.filledText values] (template.fill values r) (IsFill values r template) := by
  refine (make_binds template.keyword (values.apply template.text)).map ?_
  rintro made ⟨hmade, hbinding⟩
  have hkeyword : made.keyword = template.keyword := by rw [hmade]
  have htext : made.text = values.apply template.text := by rw [hmade]
  exact {
    keyword := hkeyword
    text := htext
    multilines := rfl
    table := rfl
    binding := hbinding }

end Step

end Acceptance
