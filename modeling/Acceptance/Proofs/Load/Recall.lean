import Acceptance.Proofs.Load.History

/-!
# What a draft recalls

A draft recalls what its history asks for: the tags that wait, the feature, the background that holds, the
open block, the latest outline, the open examples block, and the scenarios that have been added with their
origins (`Draft.Recalls`). Every event preserves that, and so does every course of events
(`Draft.Recalls.course`).
-/

set_option autoImplicit false

namespace Acceptance

/-! ## Sets of listed tags -/

namespace TagSet

/-- There is no tag in the empty set. -/
theorem notMem_empty {tag : String} : tag ∉ (∅ : TagSet) :=
  List.not_mem_nil

/-- Inserting tags one by one makes the set of all of them. -/
theorem foldl_insert_ofList (tags more : List String) :
    more.foldl insert (ofList tags) = ofList (tags ++ more) := by
  unfold ofList
  rw [List.foldl_append]

/-- The union of two sets has the tags of both. -/
theorem union_ofList (tags more : List String) :
    (ofList tags).union (ofList more) = ofList (tags ++ more) := by
  refine ext_mem fun tag => ?_
  rw [mem_union, mem_ofList, mem_ofList, mem_ofList, List.mem_append]

/-- Tags that are inherited twice are inherited once. -/
theorem union_ofList_inherited (above own inherited : List String) :
    (ofList (above ++ own)).union (ofList (above ++ inherited)) = ofList (above ++ own ++ inherited) := by
  refine ext_mem fun tag => ?_
  simp only [mem_union, mem_ofList, List.mem_append]
  tauto

end TagSet

variable {W : Type}

/-- The title and the tags of a scenario. -/
def Scenario.key (s : Scenario W) : String × TagSet :=
  (s.title, s.tags)

/-- The part of a document to which a stage belongs. -/
inductive Part where
  | outside
  | feature
  | block (k : BlockKind)
  | examples
  | closed
  deriving DecidableEq

/-- The part of a stage. -/
def Stage.part : Stage → Part
  | outside => .outside
  | body | description => .feature
  | block k | step k | multiline k | table k | attached k => .block k
  | examples | examplesTable | examplesRead => .examples
  | closed => .closed

/-- Whether the table of an examples block has begun. -/
def Stage.hasExamplesTable : Stage → Bool
  | examplesTable | examplesRead => true
  | _ => false

namespace Draft

/-- A feature that keeps, of the scenarios added, the last one for each name. -/
def Keeps (config : NamingConfig) (added : List (Scenario W)) (f : Feature W) : Prop :=
  ∃ empty : Feature W, empty.scenarios = [] ∧
    f.scenarios = (empty.addAll (nameOf config) added).scenarios

section Keeps

variable {config : NamingConfig} {added : List (Scenario W)} {f : Feature W}

/-- A feature that keeps candidates keeps more of them when they are added. -/
theorem Keeps.addAll (h : Keeps config added f) (more : List (Scenario W)) :
    Keeps config (added ++ more) (f.addAll (nameOf config) more) := by
  obtain ⟨empty, hempty, hscenarios⟩ := h
  refine ⟨empty, hempty, ?_⟩
  rw [Feature.addAll_append]
  exact Feature.scenarios_addAll_congr hscenarios

/-- The names of what is kept, each in the place where it came first. -/
theorem Keeps.names_eq (h : Keeps config added f) : f.names = (added.map (nameOf config)).eraseDups := by
  obtain ⟨empty, hempty, hscenarios⟩ := h
  rw [← Feature.names_addAll hempty]
  exact congrArg (List.map Prod.fst) hscenarios

/-- The scenarios that are kept have different names. -/
theorem Keeps.nodup_names (h : Keeps config added f) : f.names.Nodup := by
  obtain ⟨empty, hempty, hscenarios⟩ := h
  have hnames : empty.names.Nodup := by
    unfold Feature.names
    rw [hempty]
    exact List.nodup_nil
  have hsame : f.names = (empty.addAll (nameOf config) added).names := congrArg (List.map Prod.fst) hscenarios
  rw [hsame]
  exact Feature.nodup_names_addAll hnames

/-- Nothing is kept just where there are no candidates. -/
theorem Keeps.scenarios_eq_nil_iff (h : Keeps config added f) : f.scenarios = [] ↔ added = [] := by
  have hnames : f.scenarios = [] ↔ f.names = [] := List.map_eq_nil_iff.symm
  rw [hnames, h.names_eq]
  cases added with
  | nil => exact iff_of_true rfl rfl
  | cons s added =>
    rw [List.map_cons, List.eraseDups_cons]
    exact iff_of_false (List.cons_ne_nil _ _) (List.cons_ne_nil _ _)

/-- What is kept is the last scenario of its name. -/
theorem Keeps.mem_iff (h : Keeps config added f) {name : String} {s : Scenario W} :
    (name, s) ∈ f.scenarios ↔ ∃ earlier later, added = earlier ++ s :: later ∧ nameOf config s = name ∧
      ∀ other ∈ later, nameOf config other ≠ name := by
  obtain ⟨empty, hempty, hscenarios⟩ := h
  rw [hscenarios]
  exact Feature.mem_addAll hempty

end Keeps

/-- What a draft recalls of its history at a stage, given the scenarios that have been added. -/
structure Recalls (config : NamingConfig) (m : Stage) (past : History) (added : List (Scenario W))
    (d : Draft W) : Prop where
  waiting : d.pendingTags = .ofList past.ownTags
  outside : m.part = .outside → d.feature = none ∧ d.background = none ∧ d.outline = none ∧ added = []
  feature : m.part ≠ .outside → m.part ≠ .closed → ∃ f, d.feature = some f ∧
    f.tags = .ofList past.featureTags ∧ Keeps config added f
  background : d.background.map (·.tags) =
    past.closedBackground?.map fun before => .ofList (past.featureTags ++ before.ownTags)
  block : ∀ k, m.part = .block k → d.current.map Scenario.key = (past.block? k).map Origin.key ∧
    d.current.isSome = true
  outline : m.part ≠ .block .outline →
    d.outline.map Scenario.key = (past.block? .outline).map Origin.key
  examples : m.part = .examples → ∃ label before,
    past.latest Event.examplesLabel? = some (label, before) ∧
      d.examples = some (config.examplesPrefix ++ slugify label, .ofList before.ownTags)
  table : m.hasExamplesTable = true → d.table = past.table? ∧ d.table.isSome = true
  origins : List.Forall₂ (fun o s => Scenario.key s = Origin.key o) (past.origins config) added
  suite : m.part ≠ .closed → d.suite = []
  closed : m.part = .closed → ∃ f group, d.suite = f.cases group ∧
    f.tags = .ofList past.featureTags ∧ Keeps config added f

/-- Drafts that recall the same, but for the tags that wait and for tables. -/
structure Alike (d next : Draft W) : Prop where
  feature : next.feature.map (fun f => (f.tags, f.scenarios)) =
    d.feature.map fun f => (f.tags, f.scenarios)
  background : next.background = d.background
  current : next.current.map Scenario.key = d.current.map Scenario.key
  outline : next.outline = d.outline
  examples : next.examples = d.examples
  suite : next.suite = d.suite

variable {config : NamingConfig} {r : Registry W} {m n : Stage} {event : Event} {past : History}
  {added : List (Scenario W)} {d next : Draft W}

/-- An event that is no header and no end that is looked for. -/
theorem Recalls.quiet (h : Recalls config m past added d) (hevent : History.quiet event = true)
    (hpart : n.part = m.part) (halike : Alike d next)
    (hwaiting : next.pendingTags = .ofList (History.ownTags (event :: past)))
    (htable : n.hasExamplesTable = true →
      next.table = History.table? (event :: past) ∧ next.table.isSome = true) :
    Recalls config n (event :: past) added next where
  waiting := hwaiting
  outside hn := by
    obtain ⟨hfeature, hbackground, houtline, hadded⟩ := h.outside (hpart ▸ hn)
    have hnone := halike.feature
    rw [hfeature] at hnone
    exact ⟨Option.map_eq_none_iff.mp hnone, halike.background.trans hbackground,
      halike.outline.trans houtline, hadded⟩
  feature hn hn' := by
    obtain ⟨f, hfeature, htags, empty, hempty, hscenarios⟩ := h.feature (hpart ▸ hn) (hpart ▸ hn')
    have hsame := halike.feature
    rw [hfeature] at hsame
    obtain ⟨g, hg, hkey⟩ := Option.map_eq_some_iff.mp hsame
    obtain ⟨hgtags, hgscenarios⟩ := Prod.mk.inj hkey
    refine ⟨g, hg, ?_, empty, hempty, hgscenarios.trans hscenarios⟩
    rw [hgtags, htags, History.featureTags_quiet hevent]
  background := by
    rw [halike.background, h.background, History.closedBackground?_quiet hevent,
      History.featureTags_quiet hevent]
  block k hn := by
    obtain ⟨hkey, hsome⟩ := h.block k (hpart ▸ hn)
    rw [← Option.isSome_map (f := Scenario.key), halike.current, History.block?_quiet hevent,
      Option.isSome_map]
    exact ⟨hkey, hsome⟩
  outline hn := by rw [halike.outline, h.outline (hpart ▸ hn), History.block?_quiet hevent]
  examples hn := by
    obtain ⟨label, before, hlatest, hexamples⟩ := h.examples (hpart ▸ hn)
    rw [← History.examplesLabel?_quiet hevent] at hlatest
    exact ⟨label, before, hlatest, halike.examples.trans hexamples⟩
  table := htable
  origins := by
    rw [History.origins_quiet hevent]
    exact h.origins
  suite hn := halike.suite.trans (h.suite (hpart ▸ hn))
  closed hn := by
    rw [halike.suite, History.featureTags_quiet hevent]
    exact h.closed (hpart ▸ hn)

/-! ## Headers and ends -/

/-- A new block has the tags of the feature and the waiting ones. -/
theorem tags_newBlock (h : Recalls config m past added d) (houtside : m.part ≠ .outside)
    (hclosed : m.part ≠ .closed) (title : String) :
    (d.newBlock title).tags = .ofList (past.featureTags ++ past.ownTags) := by
  obtain ⟨f, hfeature, htags, -⟩ := h.feature houtside hclosed
  have hfeatureTags : d.featureTags = .ofList past.featureTags := by
    unfold featureTags
    rw [hfeature, ← htags]
  unfold newBlock
  rw [hfeatureTags, h.waiting, ← TagSet.union_ofList]
  have hempty : (∅ : TagSet).union (.ofList past.featureTags) = .ofList past.featureTags := by
    refine TagSet.ext_mem fun tag => ?_
    rw [TagSet.mem_union]
    exact or_iff_right TagSet.notMem_empty
  exact congrArg (·.union (.ofList past.ownTags)) hempty

/-- A scenario or an outline that begins has the tags of its header. -/
theorem key_openScenario (h : Recalls config m past added d) (houtside : m.part ≠ .outside)
    (hclosed : m.part ≠ .closed) (title : String) :
    (d.openScenario title).current.map Scenario.key =
      some (title, .ofList (past.featureTags ++ past.ownTags ++ past.backgroundTags)) := by
  have htags := tags_newBlock h houtside hclosed title
  have hbackground := h.background
  unfold openScenario History.backgroundTags
  dsimp only
  cases hheld : d.background with
  | none =>
    rw [hheld] at hbackground
    have hnone := Option.map_eq_none_iff.mp hbackground.symm
    rw [hnone, List.append_nil, ← htags]
    rfl
  | some b =>
    rw [hheld] at hbackground
    obtain ⟨before, hbefore, hb⟩ := Option.map_eq_some_iff.mp hbackground.symm
    rw [hbefore, ← TagSet.union_ofList_inherited, ← htags, hb]
    rfl

namespace Recalls

/-- In the feature, but in nothing within it, no block and no examples block is open. -/
theorem of_body (waiting : d.pendingTags = .ofList past.ownTags)
    (feature : ∃ f, d.feature = some f ∧ f.tags = .ofList past.featureTags ∧ Keeps config added f)
    (background : d.background.map (·.tags) =
      past.closedBackground?.map fun before => .ofList (past.featureTags ++ before.ownTags))
    (outline : d.outline.map Scenario.key = (past.block? .outline).map Origin.key)
    (origins : List.Forall₂ (fun o s => Scenario.key s = Origin.key o) (past.origins config) added)
    (suite : d.suite = []) : Recalls config .body past added d where
  waiting := waiting
  outside hn := by cases hn
  feature _ _ := feature
  background := background
  block k hk := by cases hk
  outline _ := outline
  examples hn := by cases hn
  table hn := by cases hn
  origins := origins
  suite _ := suite
  closed hn := by cases hn

/-- A feature begins with the tags that wait. -/
theorem startFeature (h : Recalls config .outside past added d) (title : String) :
    Recalls config .body (.startFeature title :: past) added (d.openFeature title) := by
  obtain ⟨-, hbackground, houtline, rfl⟩ := h.outside rfl
  have hheld : past.closedBackground? = none := by
    have hmap := h.background
    rw [hbackground] at hmap
    exact Option.map_eq_none_iff.mp hmap.symm
  have hlatest : past.latest BlockKind.outline.title? = none := by
    have hmap := h.outline (by decide)
    rw [houtline] at hmap
    exact Option.map_eq_none_iff.mp (Option.map_eq_none_iff.mp hmap.symm)
  have hheld' : History.closedBackground? (.startFeature title :: past) = none := hheld
  have hlatest' : History.latest BlockKind.outline.title? (.startFeature title :: past) = none := hlatest
  refine of_body rfl ⟨_, rfl, h.waiting, { title := title }, rfl, rfl⟩ ?_ ?_ ?_ (h.suite (by decide))
  · rw [hheld']
    rfl
  · rw [History.block?, hlatest']
    exact congrArg (Option.map Scenario.key) houtline
  · rw [History.origins_of_ended rfl]
    exact h.origins

/-- A block begins with its title, and with the tags of the feature and the waiting ones. -/
theorem startBlock (h : Recalls config .body past added d) {k : BlockKind} {title : String}
    (hnext : (d.handle config r (k.start title)).result = .ok next) :
    Recalls config (.block k) (k.start title :: past) added next := by
  have hfeatureTags : History.featureTags (k.start title :: past) = past.featureTags := by
    cases k <;> rfl
  have hclosed : History.closedBackground? (k.start title :: past) = past.closedBackground? := by
    cases k <;> rfl
  have hended : History.ended config past (k.start title) = [] := by cases k <;> rfl
  have hblock : History.block? k (k.start title :: past) =
      some ⟨title, past.featureTags ++ History.ownTags past ++
        if k = .background then [] else past.backgroundTags⟩ := by
    cases k <;> rfl
  have hopened : next.pendingTags = ∅ ∧ next.feature = d.feature ∧ next.background = d.background ∧
      next.outline = d.outline ∧ next.suite = d.suite := by
    cases k <;> cases hnext <;> exact ⟨rfl, rfl, rfl, rfl, rfl⟩
  have hcurrent : next.current.map Scenario.key =
      some (title, .ofList (past.featureTags ++ History.ownTags past ++
        if k = .background then [] else past.backgroundTags)) := by
    cases k with
    | background =>
      cases hnext
      rw [if_pos rfl, List.append_nil, ← tags_newBlock h (by decide) (by decide) title]
      rfl
    | scenario =>
      cases hnext
      exact key_openScenario h (by decide) (by decide) title
    | outline =>
      cases hnext
      exact key_openScenario h (by decide) (by decide) title
  obtain ⟨hwaiting, hfeature, hbackground, houtline, hsuite⟩ := hopened
  exact {
    waiting := by
      rw [hwaiting]
      cases k <;> rfl
    outside := fun hn => by cases hn
    feature := fun _ _ => by
      rw [hfeature, hfeatureTags]
      exact h.feature (by decide) (by decide)
    background := by
      rw [hbackground, hclosed, hfeatureTags]
      exact h.background
    block := by
      rintro _ ⟨⟩
      rw [hcurrent, hblock, ← Option.isSome_map (f := Scenario.key), hcurrent]
      exact ⟨rfl, rfl⟩
    outline := fun hk => by
      rw [houtline, h.outline (by decide)]
      cases k with
      | outline => exact absurd rfl hk
      | _ => rfl
    examples := fun hn => by cases hn
    table := fun hn => by cases hn
    origins := by
      rw [History.origins_of_ended hended]
      exact h.origins
    suite := fun _ => hsuite.trans (h.suite (by decide))
    closed := fun hn => by cases hn }

/-- The open block at a stage of a block, with its title and its tags. -/
theorem exists_current {k : BlockKind} (h : Recalls config (.block k) past added d) :
    ∃ b o, d.current = some b ∧ past.block? k = some o ∧ b.key = o.key := by
  obtain ⟨hkey, hsome⟩ := h.block k rfl
  obtain ⟨b, hb⟩ := Option.isSome_iff_exists.mp hsome
  rw [hb] at hkey
  obtain ⟨o, ho, hkey⟩ := Option.map_eq_some_iff.mp hkey.symm
  exact ⟨b, o, hb, ho, hkey.symm⟩

/-- A background that ends is recalled as the latest one. -/
theorem finishBackground (h : Recalls config (.block .background) past added d) :
    Recalls config .body (.finishBackground :: past) added
      { d with background := d.current, current := none } := by
  obtain ⟨b, o, hb, ho, hkey⟩ := h.exists_current
  obtain ⟨⟨title, before⟩, hlatest, rfl⟩ := Option.map_eq_some_iff.mp ho
  have hclosed : History.closedBackground? (.finishBackground :: past) = some before := by
    have hunfold : History.closedBackground? (.finishBackground :: past) =
      (past.latest BlockKind.background.title?).bind fun found => some found.2 := rfl
    rw [hunfold, hlatest]
    rfl
  have htags : b.tags = .ofList (past.featureTags ++ History.ownTags before ++ []) :=
    congrArg Prod.snd hkey
  refine of_body h.waiting (h.feature (by decide) (by decide)) ?_ (h.outline (by decide)) ?_
    (h.suite (by decide))
  · rw [hclosed]
    dsimp only
    rw [hb, Option.map_some, htags, List.append_nil]
    rfl
  · rw [History.origins_of_ended rfl]
    exact h.origins

/-- An outline that ends is recalled as the latest one. -/
theorem finishOutline (h : Recalls config (.block .outline) past added d) :
    Recalls config .body (.finishOutline :: past) added
      { d with outline := d.current, current := none } := by
  refine of_body h.waiting (h.feature (by decide) (by decide)) h.background (h.block .outline rfl).1 ?_
    (h.suite (by decide))
  rw [History.origins_of_ended rfl]
  exact h.origins

/-- Scenarios that are added to an open feature are kept in it with those before. -/
theorem addAll_of_feature (h : Recalls config m past added d) (houtside : m.part ≠ .outside)
    (hclosed : m.part ≠ .closed) (more : List (Scenario W)) :
    ∃ f, d.feature.map (fun f => f.addAll (nameOf config) more) = some f ∧
      f.tags = .ofList past.featureTags ∧ Keeps config (added ++ more) f := by
  obtain ⟨f, hfeature, htags, hkeeps⟩ := h.feature houtside hclosed
  exact ⟨f.addAll (nameOf config) more, by rw [hfeature]; rfl, by rw [Feature.tags_addAll, htags],
    hkeeps.addAll more⟩

/-- A scenario that ends is added to the feature. -/
theorem finishScenario (h : Recalls config (.block .scenario) past added d)
    (hnext : (d.handle config r .finishScenario).result = .ok next) :
    ∃ b, d.current = some b ∧ Recalls config .body (.finishScenario :: past) (added ++ [b]) next := by
  obtain ⟨b, o, hb, ho, hkey⟩ := h.exists_current
  have hended : History.ended config past .finishScenario = [o] := by
    rw [History.ended, ho]
    rfl
  have hadded : d.ended r .finishScenario = [b] := by
    rw [ended, hb]
    rfl
  rw [finishScenario_result hnext, hadded]
  refine ⟨b, hb, ?_⟩
  refine of_body h.waiting (h.addAll_of_feature (by decide) (by decide) [b]) h.background
    (h.outline (by decide)) ?_ (h.suite (by decide))
  rw [History.origins, hended]
  exact List.rel_append h.origins (.cons hkey .nil)

/-- An examples block begins with its label and the tags that wait. -/
theorem startExamples (h : Recalls config .body past added d) (label : String) :
    Recalls config .examples (.startExamples label :: past) added
      { d with
        examples := some (config.examplesPrefix ++ slugify label, d.pendingTags)
        pendingTags := ∅ } where
  waiting := rfl
  outside hn := by cases hn
  feature _ _ := h.feature (by decide) (by decide)
  background := h.background
  block k hk := by cases hk
  outline _ := h.outline (by decide)
  examples _ := ⟨label, past, rfl, by rw [h.waiting]⟩
  table hn := by cases hn
  origins := by
    rw [History.origins_of_ended rfl]
    exact h.origins
  suite _ := h.suite (by decide)
  closed hn := by cases hn

/-- **The rows of an examples block** make scenarios with the titles and the tags of their origins. -/
theorem ended_finishExamples (h : Recalls config .examplesRead past added d)
    (hnext : (d.handle config r .finishExamples).result = .ok next) :
    List.Forall₂ (fun o s => Scenario.key s = Origin.key o) (History.ended config past .finishExamples)
      (d.ended r .finishExamples) := by
  obtain ⟨label, before, hlabel, hexamples⟩ := h.examples rfl
  obtain ⟨htable, hsome⟩ := h.table rfl
  obtain ⟨table, hd⟩ := Option.isSome_iff_exists.mp hsome
  rw [hd] at htable
  have houtline := h.outline (by decide)
  cases hlatest : d.outline with
  | none =>
    rw [hlatest] at houtline
    have hnoBlock := Option.map_eq_none_iff.mp houtline.symm
    rw [History.ended, hnoBlock, ended, hexamples, hd, hlatest]
    exact .nil
  | some outline =>
    have hexpand := expand_of_closeExamples hexamples hd hlatest hnext
    rw [hlatest] at houtline
    obtain ⟨o, ho, hkey⟩ := Option.map_eq_some_iff.mp houtline.symm
    obtain ⟨htitle, htags⟩ := Prod.mk.inj hkey
    rw [History.ended, ho, hlabel, ← htable]
    dsimp only
    rw [Table.zipIdx_views, List.map_map, List.forall₂_map_left_iff]
    refine ((outline.expand_passes _ _ table).of_ok hexpand).imp ?_
    rintro ⟨cells, index⟩ s hmade
    refine Prod.ext ?_ ?_
    · change s.title = _
      rw [hmade.title, ← htitle]
      rfl
    · change s.tags = _
      rw [hmade.tags, ← htags]
      exact TagSet.union_ofList _ _

/-- An examples block that ends adds its scenarios to the feature. -/
theorem finishExamples (h : Recalls config .examplesRead past added d)
    (hnext : (d.handle config r .finishExamples).result = .ok next) :
    Recalls config .body (.finishExamples :: past) (added ++ d.ended r .finishExamples) next := by
  have hended := h.ended_finishExamples hnext
  obtain rfl := closeExamples_result hnext
  refine of_body h.waiting (h.addAll_of_feature (by decide) (by decide) _) h.background
    (h.outline (by decide)) ?_ (h.suite (by decide))
  rw [History.origins]
  exact List.rel_append h.origins hended

/-- A feature that ends leaves its test cases in the suite. -/
theorem finishFeature (h : Recalls config .body past added d)
    (hnext : (d.handle config r .finishFeature).result = .ok next) :
    Recalls config .closed (.finishFeature :: past) added next := by
  obtain ⟨f, hfeature, htags, hkeeps⟩ := h.feature (by decide) (by decide)
  have hsuite := h.suite (by decide)
  obtain rfl := closeFeature_result hnext
  exact {
    waiting := h.waiting
    outside := fun hn => by cases hn
    feature := fun _ hn => absurd rfl hn
    background := h.background
    block := fun k hk => by cases hk
    outline := fun _ => h.outline (by decide)
    examples := fun hn => by cases hn
    table := fun hn => by cases hn
    origins := by
      rw [History.origins_of_ended rfl]
      exact h.origins
    suite := fun hn => absurd rfl hn
    closed := fun _ => ⟨f, _, by dsimp only; rw [hsuite, hfeature]; rfl, htags, hkeeps⟩ }

end Recalls

/-! ## Events and documents -/

/-- A line of a description or of a block leaves everything else. -/
theorem alike_addLine (line : String) : Alike d (d.addLine line) :=
  ⟨rfl, rfl, rfl, rfl, rfl, rfl⟩

/-- The end of a description leaves everything else. -/
theorem alike_closeDescription : Alike d d.closeDescription where
  feature := by
    unfold closeDescription
    dsimp only
    rw [Option.map_map]
    rfl
  background := rfl
  current := rfl
  outline := rfl
  examples := rfl
  suite := rfl

/-- A step that ends changes the steps of the open block, not its title or its tags. -/
theorem alike_closeStep (hnext : (d.closeStep r).result = .ok next) :
    Alike d next ∧ next.pendingTags = d.pendingTags := by
  cases hstep : d.step with
  | none =>
    unfold closeStep at hnext
    rw [hstep] at hnext
    cases hnext
    exact ⟨⟨rfl, rfl, rfl, rfl, rfl, rfl⟩, rfl⟩
  | some step =>
    obtain ⟨keyword, text⟩ := step
    obtain ⟨made, -, -, rfl⟩ := closeStep_result hstep hnext
    have hcurrent : (d.current.map (·.addStep made)).map Scenario.key = d.current.map Scenario.key := by
      rw [Option.map_map]
      rfl
    exact ⟨⟨rfl, rfl, hcurrent, rfl, rfl, rfl⟩, rfl⟩

/-- A row of a table leaves everything else. -/
theorem alike_tableData {cells : List String}
    (hnext : (d.handle config r (.tableData cells)).result = .ok next) :
    Alike d next ∧ next.pendingTags = d.pendingTags ∧
      next.table = d.table.map fun t => ⟨t.keys, t.rows ++ [cells]⟩ := by
  rw [tableData_result hnext]
  exact ⟨⟨rfl, rfl, rfl, rfl, rfl, rfl⟩, rfl, rfl⟩

/-- **Every event preserves** what a draft recalls, and adds the scenarios that it ends. -/
theorem Recalls.step (hmoves : Moves m event n) (h : Recalls config m past added d)
    (hnext : (d.handle config r event).result = .ok next) :
    Recalls config n (event :: past) (added ++ d.ended r event) next := by
  have hsame : Alike d d := ⟨rfl, rfl, rfl, rfl, rfl, rfl⟩
  have hlines (lines : Option (List String)) : Alike d { d with lines := lines } :=
    ⟨rfl, rfl, rfl, rfl, rfl, rfl⟩
  -- all but the ends of scenarios and of examples blocks add nothing
  have hquiet (hnothing : d.ended r event = []) (h : Recalls config n (event :: past) added next) :
      Recalls config n (event :: past) (added ++ d.ended r event) next := by
    rwa [hnothing, List.append_nil]
  cases hmoves with
  | startParse source =>
    cases hnext
    exact hquiet rfl (h.quiet rfl rfl ⟨rfl, rfl, rfl, rfl, rfl, rfl⟩ rfl nofun)
  | comment text =>
    cases hnext
    exact hquiet rfl (h.quiet rfl rfl hsame h.waiting h.table)
  | whitespace line =>
    cases hnext
    exact hquiet rfl (h.quiet rfl rfl (alike_addLine "") h.waiting h.table)
  | tags tags hm =>
    cases hnext
    have hwaiting : tags.foldl TagSet.insert d.pendingTags =
        .ofList (History.ownTags past ++ tags) := by
      rw [h.waiting, TagSet.foldl_insert_ofList]
    refine hquiet rfl (h.quiet rfl rfl ⟨rfl, rfl, rfl, rfl, rfl, rfl⟩ hwaiting fun htable => ?_)
    rcases hm with rfl | rfl <;> cases htable
  | startFeature title =>
    cases hnext
    exact hquiet rfl (h.startFeature title)
  | startDescription =>
    cases hnext
    exact hquiet rfl (h.quiet rfl rfl (hlines _) h.waiting nofun)
  | description text =>
    cases hnext
    exact hquiet rfl (h.quiet rfl rfl (alike_addLine text) h.waiting nofun)
  | finishDescription =>
    cases hnext
    exact hquiet rfl (h.quiet rfl rfl alike_closeDescription h.waiting nofun)
  | startBlock k title => exact hquiet (by cases k <;> rfl) (h.startBlock hnext)
  | finishBlock k =>
    cases k with
    | background =>
      cases hnext
      exact hquiet rfl h.finishBackground
    | scenario =>
      obtain ⟨b, hb, hrecalls⟩ := h.finishScenario hnext
      have hended : d.ended r .finishScenario = [b] := congrArg Option.toList hb
      rw [← hended] at hrecalls
      exact hrecalls
    | outline =>
      cases hnext
      exact hquiet rfl h.finishOutline
  | startStep k keyword text =>
    cases hnext
    exact hquiet rfl (h.quiet rfl rfl ⟨rfl, rfl, rfl, rfl, rfl, rfl⟩ h.waiting nofun)
  | finishStep k =>
    obtain ⟨halike, hwaiting⟩ := alike_closeStep hnext
    exact hquiet rfl (h.quiet rfl rfl halike (hwaiting.trans h.waiting) nofun)
  | finishAttached k =>
    obtain ⟨halike, hwaiting⟩ := alike_closeStep hnext
    exact hquiet rfl (h.quiet rfl rfl halike (hwaiting.trans h.waiting) nofun)
  | startMultiline k indent =>
    cases hnext
    exact hquiet rfl (h.quiet rfl rfl (hlines _) h.waiting nofun)
  | content k text =>
    cases hnext
    exact hquiet rfl (h.quiet rfl rfl (alike_addLine text) h.waiting nofun)
  | finishMultiline k =>
    cases hnext
    exact hquiet rfl (h.quiet rfl rfl ⟨rfl, rfl, rfl, rfl, rfl, rfl⟩ h.waiting nofun)
  | startTable k keys =>
    cases hnext
    exact hquiet rfl (h.quiet rfl rfl ⟨rfl, rfl, rfl, rfl, rfl, rfl⟩ h.waiting nofun)
  | tableData k cells =>
    obtain ⟨halike, hwaiting, -⟩ := alike_tableData hnext
    exact hquiet rfl (h.quiet rfl rfl halike (hwaiting.trans h.waiting) nofun)
  | finishTable k =>
    cases hnext
    exact hquiet rfl (h.quiet rfl rfl hsame h.waiting nofun)
  | startExamples label =>
    cases hnext
    exact hquiet rfl (h.startExamples label)
  | startExamplesTable keys =>
    cases hnext
    exact hquiet rfl (h.quiet rfl rfl ⟨rfl, rfl, rfl, rfl, rfl, rfl⟩ h.waiting fun _ => ⟨rfl, rfl⟩)
  | examplesData cells =>
    obtain ⟨halike, hwaiting, hrows⟩ := alike_tableData hnext
    obtain ⟨htable, hsome⟩ := h.table rfl
    refine hquiet rfl (h.quiet rfl rfl halike (hwaiting.trans h.waiting) fun _ => ?_)
    rw [hrows, Option.isSome_map, htable]
    exact ⟨rfl, htable ▸ hsome⟩
  | finishExamplesTable =>
    cases hnext
    exact hquiet rfl (h.quiet rfl rfl hsame h.waiting fun _ => h.table rfl)
  | finishExamples => exact h.finishExamples hnext
  | finishFeature => exact hquiet rfl (h.finishFeature hnext)
  | finishParse hm =>
    cases hnext
    exact hquiet rfl (h.quiet rfl rfl hsame h.waiting h.table)

/-- Before a document there is nothing to recall. -/
theorem recalls_nil (config : NamingConfig) : Recalls config .outside [] [] ({} : Draft W) where
  waiting := rfl
  outside _ := ⟨rfl, rfl, rfl, rfl⟩
  feature hn := absurd rfl hn
  background := rfl
  block k hk := by cases hk
  outline _ := rfl
  examples hn := by cases hn
  table hn := by cases hn
  origins := .nil
  suite _ := rfl
  closed hn := by cases hn

/-- **A course of events preserves** what a draft recalls, and adds its candidates. -/
theorem Recalls.candidates {events : List Event} {final : Draft W} (course : Course m events n)
    (hanswers : (builder config r).answerAll d events = .ok final) (h : Recalls config m past added d) :
    Recalls config n (events.reverse ++ past) (added ++ d.candidates config r events) final := by
  induction course generalizing past added d with
  | nil =>
    cases hanswers
    rwa [Draft.candidates, List.append_nil]
  | cons hmoves _ ih =>
    obtain ⟨next, hanswer, hrest⟩ := Handler.answerAll_cons_eq_ok.mp hanswers
    have hnext := answer_builder.mp hanswer
    rw [List.reverse_cons, List.append_assoc, List.singleton_append, candidates_cons hnext,
      ← List.append_assoc]
    exact ih hrest (h.step hmoves hnext)

/-- A draft that comes through some events recalls them. -/
theorem Recalls.course {events : List Event} {final : Draft W} (course : Course m events n)
    (hanswers : (builder config r).answerAll d events = .ok final) (h : Recalls config m past added d) :
    ∃ more, Recalls config n (events.reverse ++ past) (added ++ more) final :=
  ⟨_, h.candidates course hanswers⟩

end Draft

/-- At the end of a text, the draft behind the suite recalls the whole text and its candidates. -/
theorem Loader.exists_recalls_of_loadText {l : Loader W} {text : String} {suite : Suite W}
    (h : (l.loadText text).result = .ok suite) :
    ∃ (m : Stage) (d : Draft W), Course .outside (Session.eventsOf text) m ∧
      (m = .outside ∨ m = .closed) ∧ d.suite = suite ∧
      Draft.Recalls l.config m (Session.eventsOf text).reverse
        (({} : Draft W).candidates l.config l.registry (Session.eventsOf text)) d := by
  obtain ⟨⟨d, hanswers, hsuite⟩, m, hcourse, hm⟩ := exists_answerAll_of_loadText h
  have hrecalls := (Draft.recalls_nil l.config).candidates hcourse hanswers
  rw [List.nil_append, List.append_nil] at hrecalls
  exact ⟨m, d, hcourse, hm, hsuite, hrecalls⟩

end Acceptance
