import Acceptance.Proofs.Load.Cases
import Acceptance.Proofs.Load.Identity
import Acceptance.Proofs.Load.RowNames

/-!
# Identities as identifiers

With settings that can begin identifiers, the group and the name of every loaded test case are ASCII identifiers,
because a slug goes on with letters, digits and underscores only. There is no point in an identifier, so the point of
an identity separates group and name, and nothing else does (`TestInfo.wellFormed_of_isIdentifier`). The group is made
of the title of the feature, so test cases that are loaded with the same settings have one identity just where the
titles of their features have one slug and their names are equal (`Loader.identifiers_of_loadText`).
-/

set_option autoImplicit false

namespace Acceptance

open Text

variable {W : Type}

/-! ## Identifiers -/

namespace Text

variable {text : String}

/-- An ASCII identifier: a letter or an underscore, and then letters, digits and underscores. -/
def IsIdentifier (text : String) : Prop :=
  ∃ c cs, text.toList = c :: cs ∧ (isAsciiLetter c = true ∨ c = '_') ∧ ∀ d ∈ cs, isAsciiWord d = true

/-- A text that can begin an identifier is one. -/
theorem isIdentifier_of_beginsIdentifier (h : NamingConfig.beginsIdentifier text = true) : IsIdentifier text := by
  unfold NamingConfig.beginsIdentifier at h
  split at h
  · cases h
  · next c cs htext =>
    simp only [Bool.and_eq_true, Bool.or_eq_true, beq_iff_eq] at h
    exact ⟨c, cs, htext, h.1, List.all_eq_true.mp h.2⟩

/-- **What begins an identifier** goes on to one with any slug. -/
theorem IsIdentifier.append_slugify (h : IsIdentifier text) (title : String) :
    IsIdentifier (text ++ slugify title) := by
  obtain ⟨c, cs, htext, hfirst, hrest⟩ := h
  refine ⟨c, cs ++ (slugify title).toList, ?_, hfirst, ?_⟩
  · rw [String.toList_append, htext, List.cons_append]
  · exact List.forall_mem_append.mpr ⟨hrest, fun d hd => isAsciiWord_of_mem_slugify hd⟩

/-- There is no point in an identifier. -/
theorem IsIdentifier.notMem_point (h : IsIdentifier text) : '.' ∉ text.toList := by
  obtain ⟨c, cs, htext, hfirst, hrest⟩ := h
  rw [htext]
  rintro (_ | ⟨_, hmem⟩)
  · exact absurd hfirst (by decide)
  · exact absurd (hrest '.' hmem) (by decide)

/-- The name of the placeholder of an empty feature is an identifier. -/
theorem isIdentifier_emptyName : IsIdentifier Feature.emptyName :=
  isIdentifier_of_beginsIdentifier rfl

end Text

/-! ## Identities -/

namespace TestInfo

variable {info other : TestInfo}

/-- An identity that is made of two identifiers with a point between them, and can be read in no other way. -/
structure WellFormed (info : TestInfo) : Prop where
  group : IsIdentifier info.group
  name : IsIdentifier info.name
  point : info.id.toList.count '.' = 1
  splits : ∀ before behind, info.id = before ++ "." ++ behind → before = info.group ∧ behind = info.name

/-- The characters of two texts with a point between them. -/
theorem toList_point (before behind : String) :
    (before ++ "." ++ behind).toList = before.toList ++ '.' :: behind.toList := by
  rw [String.toList_append, String.toList_append, List.append_assoc]
  rfl

/-- Identifiers as group and name make a test well formed. -/
theorem wellFormed_of_isIdentifier (hgroup : IsIdentifier info.group) (hname : IsIdentifier info.name) :
    info.WellFormed where
  group := hgroup
  name := hname
  point := by
    rw [id, toList_point, List.count_append, List.count_cons_self, List.count_eq_zero_of_not_mem hgroup.notMem_point,
      List.count_eq_zero_of_not_mem hname.notMem_point]
  splits before behind h := by
    have hlists := congrArg String.toList h
    rw [id, toList_point, toList_point,
      List.append_cons_inj_of_notMem hgroup.notMem_point hname.notMem_point] at hlists
    exact ⟨String.toList_inj.mp hlists.1.symm, String.toList_inj.mp hlists.2.2.symm⟩

/-- Well formed tests have one identity just where group and name are the same. -/
theorem WellFormed.id_eq_iff (h : info.WellFormed) :
    info.id = other.id ↔ info.group = other.group ∧ info.name = other.name := by
  constructor
  · intro hid
    obtain ⟨hgroup, hname⟩ := h.splits other.group other.name hid
    exact ⟨hgroup.symm, hname.symm⟩
  · rintro ⟨hgroup, hname⟩
    rw [id, id, hgroup, hname]

end TestInfo

/-! ## Loaded test cases -/

namespace Loader

variable {registry : Registry W} {config : NamingConfig} {l : Loader W} {text : String} {suite : Suite W}

/-- A loader has the settings that it was made with, and each of them can begin an identifier. -/
theorem config_of_withConfig (h : withConfig registry config = .ok l) :
    l.config = config ∧ ∀ setting value, (setting, value) ∈ config.settings → IsIdentifier value := by
  unfold withConfig at h
  cases hinvalid : config.invalidSetting? with
  | some invalid =>
    rw [hinvalid] at h
    cases h
  | none =>
    rw [hinvalid] at h
    cases h
    exact ⟨rfl, fun setting value hmem =>
      isIdentifier_of_beginsIdentifier (NamingConfig.beginsIdentifier_of_settings hinvalid hmem)⟩

/-- **The identity of a loaded test case** is made of two identifiers. -/
theorem wellFormed_of_loadText (hconfig : withConfig registry config = .ok l)
    (h : (l.loadText text).result = .ok suite) : ∀ c ∈ suite, c.info.WellFormed := by
  obtain ⟨rfl, hsettings⟩ := config_of_withConfig hconfig
  have hfeature : IsIdentifier l.config.featurePrefix :=
    hsettings "feature_prefix" _ (by simp [NamingConfig.settings])
  have hscenario : IsIdentifier l.config.scenarioPrefix :=
    hsettings "scenario_prefix" _ (by simp [NamingConfig.settings])
  intro c hc
  have hgroup : IsIdentifier c.info.group := by
    rw [group_of_loadText h c hc]
    exact hfeature.append_slugify _
  have hname : IsIdentifier c.info.name := by
    rcases (name_and_tags_of_loadText h c hc).1 with hname | ⟨title, hname⟩
    · exact hname ▸ isIdentifier_emptyName
    · exact hname ▸ hscenario.append_slugify title
  exact TestInfo.wellFormed_of_isIdentifier hgroup hname

/-- The test cases of one document are of one feature. -/
theorem featureTitle_of_loadText (h : (l.loadText text).result = .ok suite) :
    ∃ title, ∀ c ∈ suite, c.info.featureTitle = title := by
  rcases feature_of_loadText h with ⟨-, f, group, rfl, -⟩ | ⟨-, rfl, -⟩
  · refine ⟨f.title, fun c hc => ?_⟩
    rcases Feature.mem_cases.mp hc with ⟨-, rfl⟩ | ⟨name, s, -, rfl⟩ <;> rfl
  · exact ⟨"", List.forall_mem_nil _⟩

/-- **Generated names are identifiers, and identities are unambiguous.** Whatever a text says that is loaded with
settings that can begin identifiers, the group and the name of each of its test cases are identifiers, and the
identity has one point, between them. The test cases of one document share their group. Two test cases of any
documents have one identity just where they have one group and one name, and where the documents are loaded with the
same settings, just where the titles of their features have one slug and their names are equal. -/
theorem identifiers_of_loadText (hconfig : withConfig registry config = .ok l)
    (h : (l.loadText text).result = .ok suite) :
    (∀ c ∈ suite, c.info.WellFormed) ∧
      (∀ c ∈ suite, ∀ other ∈ suite, c.info.group = other.info.group) ∧
      ∀ {W' : Type} {registry' : Registry W'} {config' : NamingConfig} {l' : Loader W'} {text' : String}
        {suite' : Suite W'}, withConfig registry' config' = .ok l' → (l'.loadText text').result = .ok suite' →
        ∀ c ∈ suite, ∀ other ∈ suite',
          (c.info.id = other.info.id ↔ c.info.group = other.info.group ∧ c.info.name = other.info.name) ∧
            (config = config' → (c.info.id = other.info.id ↔
              slugify c.info.featureTitle = slugify other.info.featureTitle ∧ c.info.name = other.info.name)) := by
  have hformed := wellFormed_of_loadText hconfig h
  obtain ⟨hsame, -⟩ := config_of_withConfig hconfig
  refine ⟨hformed, fun c hc other hother => ?_, ?_⟩
  · obtain ⟨title, htitle⟩ := featureTitle_of_loadText h
    rw [group_of_loadText h c hc, group_of_loadText h other hother, htitle c hc, htitle other hother]
  · intro W' registry' config' l' text' suite' hconfig' h' c hc other hother
    have hid : c.info.id = other.info.id ↔ c.info.group = other.info.group ∧ c.info.name = other.info.name :=
      (hformed c hc).id_eq_iff
    refine ⟨hid, fun hconfigs => ?_⟩
    obtain ⟨hsame', -⟩ := config_of_withConfig hconfig'
    rw [hid, group_of_loadText h c hc, group_of_loadText h' other hother, hsame, hsame', hconfigs,
      String.append_right_inj]

/-- Features whose titles differ in an accent and in a hyphen, with scenarios whose titles differ in what is
dropped: their test cases have one identity. -/
theorem identifiers_of_accents :
    let l : Loader Unit := ⟨.empty, {}⟩
    let first := "Feature: Für-wahr!\nScenario: a.b\n"
    let second := "Feature: Fur wahr\nScenario: ?\nScenario: ab\n"
    withConfig .empty {} = .ok l ∧
      ∃ suite suite' c other, (l.loadText first).result = .ok suite ∧ (l.loadText second).result = .ok suite' ∧
        c ∈ suite ∧ other ∈ suite' ∧ c.info.featureTitle ≠ other.info.featureTitle ∧
        c.info.WellFormed ∧ c.info.id = other.info.id := by
  intro l first second
  have hconfig : withConfig (.empty : Registry Unit) {} = .ok l := rfl
  have hread (text : String) (names : List (String × String))
      (h : (l.loadText text).result.toOption.map (List.map fun c => (c.info.featureTitle, c.info.name)) = some names)
      {entry : String × String} (hentry : entry ∈ names) : ∃ suite, (l.loadText text).result = .ok suite ∧
        ∃ c ∈ suite, (c.info.featureTitle, c.info.name) = entry := by
    obtain ⟨suite, hsuite, rfl⟩ := Logged.exists_ok_of_map h
    exact ⟨suite, hsuite, List.mem_map.mp hentry⟩
  obtain ⟨suite, hsuite, c, hc, hkey⟩ := hread first [("Für-wahr!", "test_Scenario_ab")] (by decide +kernel)
    List.mem_cons_self
  obtain ⟨suite', hsuite', other, hother, hkey'⟩ := hread second
    [("Fur wahr", "test_Scenario_"), ("Fur wahr", "test_Scenario_ab")] (by decide +kernel)
    (List.mem_cons_of_mem _ List.mem_cons_self)
  obtain ⟨htitle, hname⟩ := Prod.mk.inj hkey
  obtain ⟨htitle', hname'⟩ := Prod.mk.inj hkey'
  obtain ⟨hformed, -, hids⟩ := identifiers_of_loadText hconfig hsuite
  refine ⟨hconfig, suite, suite', c, other, hsuite, hsuite', hc, hother, ?_, hformed c hc, ?_⟩
  · rw [htitle, htitle']
    decide
  · refine ((hids hconfig hsuite' c hc other hother).2 rfl).mpr ⟨?_, hname.trans hname'.symm⟩
    rw [htitle, htitle']
    decide +kernel

end Loader

end Acceptance
