import Mathlib.Data.List.Induction
import Acceptance.Proofs.Outline.Binding

/-!
# Resolving a step

A registry has the definitions that were made since it was last cleared, and a step is resolved by all of
them that it matches: by none, by the only one, or, where there are several, by an ambiguity that names each of
them in the order in which they were made. So the order of the definitions counts in the ambiguity only, and one
of the definitions that it names is left alone with the step where the others are not made
(`Registry.resolve_ofCalls`).
-/

set_option autoImplicit false

namespace Acceptance.Registry

variable {W : Type} {engine : Engine} {r other : Registry W} {keyword : Keyword} {text : String}

/-! ## Calls -/

/-- A call on a registry: a definition is made, or all of them are removed. -/
inductive Call (W : Type) where
  | define (source : String) (callback : Callback W)
  | clear

/-- The definition that a call makes, if the engine takes its text for a pattern. -/
def Call.definition? (engine : Engine) : Call W → Option (Definition W)
  | define source callback =>
    match engine.compile source with
    | .ok pattern => some ⟨pattern, callback⟩
    | .error _ => none
  | clear => none

/-- Whether a call removes all definitions. -/
def Call.isClear : Call W → Bool
  | define _ _ => false
  | clear => true

/-- The registry after a call. A definition that fails leaves it as it was. -/
def call (r : Registry W) : Call W → Registry W
  | .define source callback =>
    match (r.define source callback).result with
    | .ok defined => defined
    | .error _ => r
  | .clear => r.clear

/-- The registry of an engine after calls on one without definitions. -/
def ofCalls (engine : Engine) (calls : List (Call W)) : Registry W :=
  calls.foldl call (empty engine)

/-- The definitions that calls have made since the last one that removed them all. -/
def registered (engine : Engine) (calls : List (Call W)) : List (Definition W) :=
  (calls.reverse.takeWhile fun c => !c.isClear).reverse.filterMap (Call.definition? engine)

/-- What a call to define does: the definition stands behind the others if it can be made. -/
theorem call_define (r : Registry W) (source : String) (callback : Callback W) :
    r.call (.define source callback) = ⟨r.engine,
      r.definitions ++ (Call.definition? r.engine (.define source callback)).toList⟩ := by
  cases hcompile : r.engine.compile source with
  | error fault => simp [call, define, Call.definition?, hcompile, Logged.fail]
  | ok pattern => simp [call, Call.definition?, hcompile, define_result hcompile]

/-- No call changes the engine. -/
theorem engine_call (r : Registry W) (c : Call W) : (r.call c).engine = r.engine := by
  cases c with
  | define source callback => rw [call_define]
  | clear => rfl

/-- A registry keeps its engine over any calls. -/
theorem engine_ofCalls (engine : Engine) (calls : List (Call W)) : (ofCalls engine calls).engine = engine := by
  induction calls using List.reverseRecOn with
  | nil => rfl
  | append_singleton calls c ih =>
    rw [ofCalls, List.foldl_append, ← ofCalls, List.foldl_cons, List.foldl_nil, engine_call, ih]

/-- **A registry has the definitions that were made since it was last cleared.** -/
theorem definitions_ofCalls (engine : Engine) (calls : List (Call W)) :
    (ofCalls engine calls).definitions = registered engine calls := by
  induction calls using List.reverseRecOn with
  | nil => rfl
  | append_singleton calls c ih =>
    rw [ofCalls, List.foldl_append, ← ofCalls, List.foldl_cons, List.foldl_nil]
    unfold registered at ih ⊢
    cases c with
    | clear => simp [call, clear, empty, Call.isClear]
    | define source callback =>
      rw [call_define, engine_ofCalls, ih]
      rw [List.reverse_append, List.reverse_singleton, List.singleton_append,
        List.takeWhile_cons_of_pos (p := fun c : Call W => !c.isClear) rfl, List.reverse_cons,
        List.filterMap_append]
      rfl

/-- The pattern of a definition that was made is what the engine compiles its text to. -/
theorem compile_of_mem_registered {calls : List (Call W)} {d : Definition W}
    (h : d ∈ registered engine calls) : engine.compile d.pattern.source = .ok d.pattern := by
  obtain ⟨c, -, hc⟩ := List.mem_filterMap.mp h
  cases c with
  | clear => cases hc
  | define source callback =>
    rw [Call.definition?] at hc
    cases hcompile : engine.compile source with
    | error fault =>
      rw [hcompile] at hc
      cases hc
    | ok pattern =>
      rw [hcompile] at hc
      cases hc
      rw [Engine.source_of_compile hcompile, hcompile]

/-- The calls that make definitions again. -/
def remake (definitions : List (Definition W)) : List (Call W) :=
  definitions.map fun d => .define d.pattern.source d.callback

/-- Definitions that are made again stand behind those that a registry has. -/
theorem foldl_remake (r : Registry W) {definitions : List (Definition W)}
    (h : ∀ d ∈ definitions, r.engine.compile d.pattern.source = .ok d.pattern) :
    (remake definitions).foldl call r = ⟨r.engine, r.definitions ++ definitions⟩ := by
  induction definitions generalizing r with
  | nil =>
    rw [List.append_nil]
    rfl
  | cons d definitions ih =>
    obtain ⟨hd, hrest⟩ := List.forall_mem_cons.mp h
    have hmade : Call.definition? r.engine (.define d.pattern.source d.callback) = some d := by
      rw [Call.definition?, hd]
    have hfold := ih ⟨r.engine, r.definitions ++ [d]⟩ hrest
    rw [remake, List.map_cons, List.foldl_cons, ← remake, call_define, hmade, Option.toList_some, hfold,
      List.append_assoc, List.singleton_append]

/-- **A registry can be rebuilt** from definitions that were made. -/
theorem ofCalls_remake {definitions : List (Definition W)}
    (h : ∀ d ∈ definitions, engine.compile d.pattern.source = .ok d.pattern) :
    ofCalls engine (remake definitions) = ⟨engine, definitions⟩ :=
  foldl_remake (empty engine) h

/-- A registry with one more call to define. -/
theorem ofCalls_append_define (engine : Engine) (calls : List (Call W)) (source : String)
    (callback : Callback W) :
    ofCalls engine (calls ++ [.define source callback]) = ⟨(ofCalls engine calls).engine,
      (ofCalls engine calls).definitions ++ (Call.definition? engine (.define source callback)).toList⟩ := by
  rw [ofCalls, List.foldl_append, ← ofCalls, List.foldl_cons, List.foldl_nil, call_define, engine_ofCalls]

/-! ## Hits -/

/-- A step is resolved exactly if it has no hit or one, and that one is its binding. -/
theorem resolve_eq_ok_iff {binding : Option (Binding W)} :
    r.resolve keyword text = .ok binding ↔ r.hits (subject keyword text) = binding.toList := by
  unfold resolve
  dsimp only
  match r.hits (subject keyword text) with
  | [] => cases binding <;> simp
  | [hit] => cases binding <;> simp
  | _ :: _ :: _ => cases binding <;> simp

/-- A step is refused exactly if it is ambiguous, and the error names what it matches. -/
theorem resolve_eq_error_iff {a : Ambiguity} :
    r.resolve keyword text = .error a ↔ r.IsAmbiguous keyword text ∧ a = r.ambiguity keyword text := by
  rcases r.resolve_cases keyword text with ⟨hambiguous, hresolve⟩ | ⟨hone, binding, hresolve⟩
  · rw [hresolve, Except.error.injEq]
    exact ⟨fun h => ⟨hambiguous, h.symm⟩, fun h => h.2.symm⟩
  · rw [hresolve]
    exact ⟨nofun, fun h => absurd h.1 hone⟩

/-- A hit is a definition with what its pattern captures. -/
theorem search_of_mem_hits {subject : String} {b : Binding W} (h : b ∈ r.hits subject) :
    b.definition.pattern.search subject = some b.args := by
  unfold hits at h
  rw [List.mem_filterMap] at h
  obtain ⟨d, -, hd⟩ := h
  obtain ⟨args, hargs, rfl⟩ := Option.map_eq_some_iff.mp hd
  exact hargs

/-- **What is bound** is the only definition that the step matches, with what that captures. -/
theorem resolve_eq_some_iff {b : Binding W} :
    r.resolve keyword text = .ok (some b) ↔ r.matching keyword text = [b.definition] ∧
      b.definition.pattern.search (subject keyword text) = some b.args := by
  rw [resolve_eq_ok_iff, ← map_definition_hits]
  constructor
  · intro hhits
    have hmem : b ∈ r.hits (subject keyword text) := by
      rw [hhits]
      exact List.mem_singleton_self b
    rw [hhits]
    exact ⟨rfl, search_of_mem_hits hmem⟩
  · rintro ⟨hone, hsearch⟩
    obtain ⟨hit, hhits, hdefinition⟩ := List.map_eq_singleton_iff.mp hone
    have hmem : hit ∈ r.hits (subject keyword text) := by
      rw [hhits]
      exact List.mem_singleton_self hit
    have hargs := search_of_mem_hits hmem
    rw [hdefinition, hsearch, Option.some.injEq] at hargs
    obtain ⟨d, args⟩ := hit
    obtain rfl : d = b.definition := hdefinition
    obtain rfl : b.args = args := hargs
    exact hhits

/-- A step has no binding exactly if no definition matches it. -/
theorem resolve_eq_none_iff : r.resolve keyword text = .ok none ↔ r.matching keyword text = [] := by
  rw [resolve_eq_ok_iff, ← map_definition_hits, List.map_eq_nil_iff]
  rfl

/-! ## Other registries -/

/-- The same answer, but for the order in which an ambiguity names its patterns. -/
inductive SameButOrder : Except Ambiguity (Option (Binding W)) → Except Ambiguity (Option (Binding W)) → Prop where
  | binding (b : Option (Binding W)) : SameButOrder (.ok b) (.ok b)
  | ambiguity (step : String) {patterns others : List String} : patterns.Perm others →
      SameButOrder (.error ⟨step, patterns⟩) (.error ⟨step, others⟩)

/-- **The order of the definitions** counts in ambiguities only. -/
theorem resolve_perm (h : r.definitions.Perm other.definitions) (keyword : Keyword) (text : String) :
    SameButOrder (r.resolve keyword text) (other.resolve keyword text) := by
  have hhits : (r.hits (subject keyword text)).Perm (other.hits (subject keyword text)) := h.filterMap _
  have hmatching : (r.matching keyword text).Perm (other.matching keyword text) := h.filter _
  rcases r.resolve_cases keyword text with ⟨hambiguous, hresolve⟩ | ⟨-, binding, hresolve⟩
  · have hother : other.resolve keyword text = .error (other.ambiguity keyword text) := by
      refine resolve_eq_error_iff.mpr ⟨?_, rfl⟩
      unfold IsAmbiguous at hambiguous ⊢
      rwa [← hmatching.length_eq]
    rw [hresolve, hother]
    exact .ambiguity _ (hmatching.map _)
  · have hother : other.resolve keyword text = .ok binding := by
      rw [resolve_eq_ok_iff] at hresolve ⊢
      rw [hresolve] at hhits
      cases binding with
      | none => exact hhits.nil_eq.symm
      | some b => exact List.perm_singleton.mp hhits.symm
    rw [hresolve, hother]
    exact .binding binding

/-- A definition that is added last adds its own hit last. -/
theorem hits_append (r : Registry W) (d : Definition W) (subject : String) :
    Registry.hits ⟨r.engine, r.definitions ++ [d]⟩ subject =
      r.hits subject ++ ((d.pattern.search subject).map fun args => ⟨d, args⟩).toList := by
  unfold hits
  rw [List.filterMap_append]
  cases hsearch : d.pattern.search subject <;> simp [hsearch]

/-- A definition that is added last is the last one that may match. -/
theorem matching_append (r : Registry W) (d : Definition W) (keyword : Keyword) (text : String) :
    Registry.matching ⟨r.engine, r.definitions ++ [d]⟩ keyword text =
      r.matching keyword text ++ [d].filter fun d => (d.pattern.search (subject keyword text)).isSome :=
  List.filter_append _ _

/-- A definition that is added counts for nothing, is what the step is bound to, or makes it ambiguous. -/
inductive Added (r : Registry W) (d : Definition W) (keyword : Keyword) (text : String) :
    Except Ambiguity (Option (Binding W)) → Prop where
  | unmatched : d.pattern.search (subject keyword text) = none →
      Added r d keyword text (r.resolve keyword text)
  | bound {args : List String} : r.resolve keyword text = .ok none →
      d.pattern.search (subject keyword text) = some args → Added r d keyword text (.ok (some ⟨d, args⟩))
  | ambiguous {args : List String} : r.resolve keyword text ≠ .ok none →
      d.pattern.search (subject keyword text) = some args → Added r d keyword text
        (.error ⟨subject keyword text, (r.matching keyword text ++ [d]).map fun d => d.pattern.source⟩)

/-- **One more definition.** -/
theorem resolve_added (r : Registry W) (d : Definition W) (keyword : Keyword) (text : String) :
    Added r d keyword text (Registry.resolve ⟨r.engine, r.definitions ++ [d]⟩ keyword text) := by
  have hmatching := matching_append r d keyword text
  cases hsearch : d.pattern.search (subject keyword text) with
  | none =>
    have hsame : Registry.resolve ⟨r.engine, r.definitions ++ [d]⟩ keyword text = r.resolve keyword text := by
      unfold resolve
      dsimp only
      rw [hits_append, hsearch, Option.map_none, Option.toList_none, List.append_nil]
    rw [hsame]
    exact .unmatched hsearch
  | some args =>
    rw [List.filter_cons_of_pos (by simp [hsearch]), List.filter_nil] at hmatching
    by_cases hnone : r.resolve keyword text = .ok none
    · have hbound : Registry.resolve ⟨r.engine, r.definitions ++ [d]⟩ keyword text = .ok (some ⟨d, args⟩) := by
        refine resolve_eq_some_iff.mpr ⟨?_, hsearch⟩
        rw [hmatching, resolve_eq_none_iff.mp hnone, List.nil_append]
      rw [hbound]
      exact .bound hnone hsearch
    · have hambiguous : Registry.resolve ⟨r.engine, r.definitions ++ [d]⟩ keyword text =
          .error ⟨subject keyword text, (r.matching keyword text ++ [d]).map fun d => d.pattern.source⟩ := by
        refine resolve_eq_error_iff.mpr ⟨?_, by rw [ambiguity, hmatching]⟩
        have hpos : 0 < (r.matching keyword text).length :=
          List.length_pos_iff.mpr fun h => hnone (resolve_eq_none_iff.mpr h)
        rw [IsAmbiguous, hmatching, List.length_append, List.length_singleton]
        omega
      rw [hambiguous]
      exact .ambiguous hnone hsearch

/-- The definitions that a step does not match. -/
def unmatched (definitions : List (Definition W)) (keyword : Keyword) (text : String) : List (Definition W) :=
  definitions.filter fun d => (d.pattern.search (subject keyword text)).isNone

/-- **One of the definitions that a step matches**, without the others, is what the step is bound to. -/
theorem resolve_alone {before after : List (Definition W)} {d : Definition W} {args : List String}
    (h : d.pattern.search (subject keyword text) = some args) :
    Registry.resolve ⟨engine, unmatched before keyword text ++ d :: unmatched after keyword text⟩
      keyword text = .ok (some ⟨d, args⟩) := by
  have hnone (definitions : List (Definition W)) :
      (unmatched definitions keyword text).filter
        (fun d => (d.pattern.search (subject keyword text)).isSome) = [] := by
    refine List.filter_eq_nil_iff.mpr fun other hother => ?_
    have hunmatched := (List.mem_filter.mp hother).2
    simpa using hunmatched
  refine resolve_eq_some_iff.mpr ⟨?_, h⟩
  rw [matching, List.filter_append, hnone, List.filter_cons_of_pos (by simp [h]), hnone]
  rfl

/-- The definitions that are left when those are not made that a step matches, with the exception of one. -/
theorem ofCalls_unmatched {calls : List (Call W)} {before after : List (Definition W)} {d : Definition W}
    (h : registered engine calls = before ++ d :: after) :
    ofCalls engine (remake (unmatched before keyword text ++ d :: unmatched after keyword text)) =
      ⟨engine, unmatched before keyword text ++ d :: unmatched after keyword text⟩ := by
  have hkept : (unmatched before keyword text ++ d :: unmatched after keyword text).Sublist
      (registered engine calls) := by
    rw [h]
    exact List.filter_sublist.append (List.filter_sublist.cons_cons d)
  exact ofCalls_remake fun other hother => compile_of_mem_registered (hkept.subset hother)

/-! ## Every registry -/

/-- **Resolution is exact, and does not depend on the order of the definitions.** Whatever engine compiles the
patterns, and whatever calls have made a registry, it has the definitions that were made since it was last
cleared. A step is bound to none just if it matches none of them, to one just if it matches no other, with what
that captures, and otherwise all of them are named in their order. The same definitions in another order give
the same answer, but for the order of the names. A definition that is added leaves the answer as it was, is what
the step is bound to if there was none, or makes the step ambiguous. Each definition that an ambiguity names is
what the step is bound to where the others that it names are not made. -/
theorem resolve_ofCalls (engine : Engine) (calls : List (Call W)) (keyword : Keyword) (text : String) :
    let r := ofCalls engine calls
    let result := r.resolve keyword text
    r.definitions = registered engine calls ∧
      (result = .ok none ↔ r.matching keyword text = []) ∧
      (∀ b, result = .ok (some b) ↔ r.matching keyword text = [b.definition] ∧
        b.definition.pattern.search (subject keyword text) = some b.args) ∧
      (∀ a, result = .error a ↔ 2 ≤ (r.matching keyword text).length ∧
        a = ⟨subject keyword text, (r.matching keyword text).map fun d => d.pattern.source⟩) ∧
      (∀ others, (registered engine calls).Perm (registered engine others) →
        SameButOrder result ((ofCalls engine others).resolve keyword text)) ∧
      (∀ source callback,
        let added := (ofCalls engine (calls ++ [.define source callback])).resolve keyword text
        (Call.definition? engine (.define source callback) = none → added = result) ∧
          ∀ d, Call.definition? engine (.define source callback) = some d → Added r d keyword text added) ∧
      ∀ a before d after, result = .error a → registered engine calls = before ++ d :: after →
        d ∈ r.matching keyword text →
        let kept := unmatched before keyword text ++ d :: unmatched after keyword text
        ∃ args, d.pattern.search (subject keyword text) = some args ∧
          (ofCalls engine (remake kept)).resolve keyword text = .ok (some ⟨d, args⟩) := by
  intro r result
  have hdefinitions : r.definitions = registered engine calls := definitions_ofCalls engine calls
  refine ⟨hdefinitions, resolve_eq_none_iff, fun b => resolve_eq_some_iff, fun a => resolve_eq_error_iff,
    fun others hperm => ?_, fun source callback => ?_, fun a before d after _ hsplit hd => ?_⟩
  · refine resolve_perm ?_ keyword text
    rwa [hdefinitions, definitions_ofCalls]
  · rw [ofCalls_append_define]
    refine ⟨fun hnone => ?_, fun d hd => ?_⟩
    · rw [hnone, Option.toList_none, List.append_nil]
    · rw [hd]
      exact resolve_added r d keyword text
  · obtain ⟨args, hargs⟩ := Option.isSome_iff_exists.mp (List.mem_filter.mp hd).2
    refine ⟨args, hargs, ?_⟩
    rw [ofCalls_unmatched hsplit]
    exact resolve_alone hargs

/-- Calls of which one removes a definition and one fails, and a step that is left with one of the two
definitions that it matches. -/
theorem resolve_ofCalls_two_of_three :
    let callback : Callback Unit := fun _ world => (world, .passed)
    let calls : List (Call Unit) := [.define "step" callback, .clear, .define "(" callback,
      .define "st(.)p" callback, .define "other" callback, .define "step" callback]
    (ofCalls .standard calls).resolve .given "a step" = .error ⟨"Given a step", ["st(.)p", "step"]⟩ ∧
      ∃ first second third : Definition Unit, (ofCalls .standard calls).definitions = [first, second, third] ∧
        second.pattern.source = "other" ∧
        (ofCalls .standard (remake [first, second])).resolve .given "a step" = .ok (some ⟨first, ["e"]⟩) := by
  intro callback calls
  obtain ⟨hdefinitions, -, -, herror, -, -, halone⟩ := resolve_ofCalls .standard calls .given "a step"
  have hmatching : ((ofCalls .standard calls).matching .given "a step").map (fun d => d.pattern.source) =
      ["st(.)p", "step"] := by decide +kernel
  have hresolve : (ofCalls .standard calls).resolve .given "a step" =
      .error ⟨"Given a step", ["st(.)p", "step"]⟩ := by
    refine (herror _).mpr ⟨?_, by rw [hmatching]; rfl⟩
    rw [← List.length_map fun d : Definition Unit => d.pattern.source, hmatching]
    decide
  have hregistered : (registered .standard calls).map (fun d => (d.pattern.source,
      d.pattern.search (subject .given "a step"))) =
        [("st(.)p", some ["e"]), ("other", none), ("step", some [])] := by decide +kernel
  obtain ⟨first, rest, hfirst, hone, hrest⟩ := List.map_eq_cons_iff.mp hregistered
  obtain ⟨second, rest, rfl, htwo, hrest⟩ := List.map_eq_cons_iff.mp hrest
  obtain ⟨third, rest, rfl, hthree, hrest⟩ := List.map_eq_cons_iff.mp hrest
  obtain rfl := List.map_eq_nil_iff.mp hrest
  rw [Prod.mk.injEq] at hone htwo hthree
  have hmem : first ∈ (ofCalls .standard calls).matching .given "a step" := by
    refine List.mem_filter.mpr ⟨?_, by rw [hone.2]; rfl⟩
    rw [hdefinitions, hfirst]
    exact List.mem_cons_self
  obtain ⟨args, hargs, hbound⟩ := halone _ [] first [second, third] hresolve hfirst hmem
  rw [hone.2, Option.some.injEq] at hargs
  have hkept : unmatched [second, third] .given "a step" = [second] := by simp [unmatched, htwo.2, hthree.2]
  rw [hkept, ← hargs] at hbound
  exact ⟨hresolve, first, second, third, hdefinitions.trans hfirst, htwo.1, hbound⟩

end Acceptance.Registry
