import Acceptance.Proofs.Load.Recall
import Acceptance.Proofs.Load.Sources
import Acceptance.Proofs.Tag.Selection
import Acceptance.Proofs.Text.Slug

/-!
# Identities without blanks

The group and the name of a test case are slugs behind configured beginnings, and its tags are names that
lines of tags have yielded. There is no blank in either: a slug writes separators as underscores
(`Text.unbroken_slugify`), and blanks end the names on a line of tags. So the identity and the tags of a
loaded test case can be written on one line, with spaces between them, and told apart again
(`Loader.unbroken_of_loadStream`).
-/

set_option autoImplicit false

namespace Acceptance

variable {W : Type}

/-! ## Texts without blanks -/

namespace Text

/-- A text in which there is no blank. -/
def Unbroken (text : String) : Prop :=
  ∀ c ∈ text.toList, isBlank c = false

instance (text : String) : Decidable (Unbroken text) :=
  List.decidableBAll (fun c => isBlank c = false) text.toList

/-- Texts without blanks are without them together. -/
theorem Unbroken.append {first second : String} (hfirst : Unbroken first) (hsecond : Unbroken second) :
    Unbroken (first ++ second) := by
  intro c hc
  rw [String.toList_append] at hc
  rcases List.mem_append.mp hc with hc | hc
  · exact hfirst c hc
  · exact hsecond c hc

/-- **A slug** has no blank in it, whatever its title is. -/
theorem unbroken_slugify (title : String) : Unbroken (slugify title) :=
  fun _ hc => isBlank_of_isAsciiWord (isAsciiWord_of_mem_slugify hc)

end Text

open Text

/-! ## Tags of a history -/

namespace History

variable {config : NamingConfig} {past before : History} {tag : String} {o : Origin}

/-- Whether a line of tags has yielded a name. -/
def WritesTag (past : History) (tag : String) : Prop :=
  ∃ names, .tags names ∈ past ∧ tag ∈ names

/-- A tag that some events write is written by any that contain them. -/
theorem WritesTag.mono (hwrites : before.WritesTag tag) (h : before ⊆ past) : past.WritesTag tag := by
  obtain ⟨names, hnames, htag⟩ := hwrites
  exact ⟨names, h hnames, htag⟩

/-- A waiting tag has been written. -/
theorem writesTag_of_ownTags (h : tag ∈ past.ownTags) : past.WritesTag tag := by
  have hcons (event : Event) (past : History) : past ⊆ event :: past := List.subset_cons_self event past
  fun_induction ownTags past with
  | case1 => cases h
  | case2 tags past ih =>
    rcases List.mem_append.mp h with h | h
    · exact (ih h).mono (hcons _ _)
    · exact ⟨tags, List.mem_cons_self, h⟩
  | case3 => cases h
  | case4 event past _ _ ih => exact (ih h).mono (hcons _ _)

/-- What comes before the latest event of a kind is part of the history. -/
theorem subset_of_latest {α : Type} {sought : Event → Option α} {found : α}
    (h : past.latest sought = some (found, before)) : before ⊆ past := by
  induction past with
  | nil => cases h
  | cons event past ih =>
    unfold latest at h
    split at h
    · cases h
      exact List.subset_cons_self event before
    · exact List.subset_cons_of_subset event (ih h)

/-- A tag of the feature has been written. -/
theorem writesTag_of_featureTags (h : tag ∈ past.featureTags) : past.WritesTag tag := by
  unfold featureTags at h
  split at h
  · next title before hlatest => exact (writesTag_of_ownTags h).mono (subset_of_latest hlatest)
  · cases h

/-- A tag of the background has been written. -/
theorem writesTag_of_backgroundTags (h : tag ∈ past.backgroundTags) : past.WritesTag tag := by
  unfold backgroundTags at h
  split at h
  · next before hclosed =>
    obtain ⟨⟨_, closed⟩, hend, hstart⟩ := Option.bind_eq_some_iff.mp hclosed
    obtain ⟨⟨title, start⟩, hlatest, hstart⟩ := Option.bind_eq_some_iff.mp hstart
    cases hstart
    exact (writesTag_of_ownTags h).mono (List.Subset.trans (subset_of_latest hlatest) (subset_of_latest hend))
  · cases h

/-- A tag of a block has been written. -/
theorem writesTag_of_block? {k : BlockKind} (ho : past.block? k = some o) (h : tag ∈ o.tags) :
    past.WritesTag tag := by
  obtain ⟨⟨title, before⟩, hlatest, rfl⟩ := Option.map_eq_some_iff.mp ho
  have hsubset := subset_of_latest hlatest
  rcases List.mem_append.mp h with h | h
  · rcases List.mem_append.mp h with h | h
    · exact writesTag_of_featureTags h
    · exact (writesTag_of_ownTags h).mono hsubset
  · split at h
    · cases h
    · exact (writesTag_of_backgroundTags h).mono hsubset

/-- A tag of an origin has been written. -/
theorem writesTag_of_ended {event : Event} (ho : o ∈ ended config past event) (h : tag ∈ o.tags) :
    past.WritesTag tag := by
  unfold ended at ho
  split at ho
  · exact writesTag_of_block? (Option.mem_toList.mp ho) h
  · split at ho
    · next outline label before table houtline hlabel _ =>
      obtain ⟨⟨row, index⟩, -, rfl⟩ := List.mem_map.mp ho
      rcases List.mem_append.mp h with h | h
      · exact writesTag_of_block? houtline h
      · exact (writesTag_of_ownTags h).mono (subset_of_latest hlabel)
    · cases ho
  · cases ho

/-- The tags of an origin are names that lines of tags have yielded. -/
theorem writesTag_of_origins (ho : o ∈ past.origins config) (h : tag ∈ o.tags) : past.WritesTag tag := by
  induction past with
  | nil => cases ho
  | cons event past ih =>
    have hbefore : WritesTag past tag := by
      rcases List.mem_append.mp ho with ho | ho
      · exact ih ho
      · exact writesTag_of_ended ho h
    exact hbefore.mono (List.subset_cons_self event past)

end History

/-! ## Events of a text -/

/-- An event of some lines is one of a single line. -/
theorem Parser.exists_report_of_reportAll {p : Parser} {lines : List String} {event : Event}
    (h : event ∈ (p.reportAll lines).events) : ∃ (q : Parser) (line : Option String),
      event ∈ (q.report line).events := by
  induction lines generalizing p with
  | nil => cases h
  | cons line lines ih =>
    rcases Transcript.mem_events_andThen h with h | h
    · exact ⟨p, some line, h⟩
    · exact ih h

/-- **A tag of a text** has no blank in it. -/
theorem Session.unbroken_of_writesTag {text tag : String} (h : History.WritesTag (eventsOf text).reverse tag) :
    Unbroken tag := by
  obtain ⟨names, hnames, htag⟩ := h
  rw [List.mem_reverse, eventsOf_eq] at hnames
  have hreport : ∃ (q : Parser) (line : Option String), .tags names ∈ (q.report line).events := by
    rcases Transcript.mem_events_andThen hnames with h | h
    · cases List.mem_singleton.mp h
    rcases Transcript.mem_events_andThen h with h | h
    · exact Parser.exists_report_of_reportAll h
    rcases Transcript.mem_events_andThen h with h | h
    · exact ⟨_, none, h⟩
    · cases List.mem_singleton.mp h
  obtain ⟨q, line, hreport⟩ := hreport
  exact Parser.not_isBlank_of_tags_mem hreport htag

/-! ## Groups -/

namespace Draft

variable {config : NamingConfig} {r : Registry W} {event : Event} {d next : Draft W}

/-- A draft whose test cases have groups that are made of the titles of their features. -/
def Grouped (d : Draft W) (config : NamingConfig) : Prop :=
  ∀ c ∈ d.suite, c.info.group = config.featurePrefix ++ slugify c.info.featureTitle

/-- **Every event** makes groups of the titles of features only. -/
theorem Grouped.handle (h : d.Grouped config) (hnext : (d.handle config r event).result = .ok next) :
    next.Grouped config := by
  cases event with
  | finishFeature =>
    rw [closeFeature_result hnext]
    refine List.forall_mem_append.mpr ⟨h, fun c hc => ?_⟩
    obtain ⟨f, -, hc⟩ := exists_of_mem_finished hc
    rcases Feature.mem_cases.mp hc with ⟨-, rfl⟩ | ⟨name, s, -, rfl⟩ <;> rfl
  | finishScenario =>
    rw [finishScenario_result hnext]
    exact h
  | finishStep =>
    obtain ⟨_, _, _, rfl⟩ := exists_closeStep_result hnext
    exact h
  | tableData cells =>
    rw [tableData_result hnext]
    exact h
  | finishExamples =>
    rw [closeExamples_result hnext]
    exact h
  | _ =>
    cases hnext
    exact h

/-- Whatever events a draft comes through, its test cases stay grouped by the feature. -/
theorem Grouped.answerAll {events : List Event} (h : d.Grouped config)
    (hanswers : (builder config r).answerAll d events = .ok next) : next.Grouped config :=
  answerAll_invariant (fun _ _ _ _ (h : Grouped _ config) hnext => h.handle hnext) hanswers h

end Draft

/-! ## Loaded test cases -/

/-- Without blanks in the identity and in the tags. -/
structure TestInfo.Unbroken (info : TestInfo) : Prop where
  id : Text.Unbroken info.id
  tags : ∀ tag ∈ info.tags, Text.Unbroken tag

namespace Loader

variable {l : Loader W} {suite : Suite W}

/-- The group of a loaded test case is made of the title of its feature. -/
theorem group_of_loadText {text : String} (h : (l.loadText text).result = .ok suite) :
    ∀ c ∈ suite, c.info.group = l.config.featurePrefix ++ slugify c.info.featureTitle := by
  obtain ⟨⟨d, hanswers, rfl⟩, -⟩ := exists_answerAll_of_loadText h
  have hempty : ({} : Draft W).Grouped l.config := List.forall_mem_nil _
  exact hempty.answerAll hanswers

/-- The names and the tags of the test cases of a text. -/
theorem name_and_tags_of_loadText {text : String} (h : (l.loadText text).result = .ok suite) :
    ∀ c ∈ suite,
      (c.info.name = Feature.emptyName ∨ ∃ title, c.info.name = l.config.scenarioPrefix ++ slugify title) ∧
      ∀ tag ∈ c.info.tags, History.WritesTag (Session.eventsOf text).reverse tag := by
  obtain ⟨m, d, -, hm, rfl, hrecalls⟩ := exists_recalls_of_loadText h
  intro c hc
  rcases hm with rfl | rfl
  · rw [hrecalls.suite nofun] at hc
    cases hc
  obtain ⟨f, group, hsuite, htags, hkeeps⟩ := hrecalls.closed rfl
  rw [hsuite] at hc
  rcases Feature.mem_cases.mp hc with ⟨-, rfl⟩ | ⟨name, s, hs, rfl⟩
  · refine ⟨.inl rfl, fun tag htag => History.writesTag_of_featureTags ?_⟩
    have htag : tag ∈ f.tags := htag
    rwa [htags, TagSet.mem_ofList] at htag
  · obtain ⟨earlier, later, hadded, rfl, -⟩ := hkeeps.mem_iff.mp hs
    refine ⟨.inr ⟨s.title, rfl⟩, fun tag htag => ?_⟩
    have hmem : s ∈ ({} : Draft W).candidates l.config l.registry (Session.eventsOf text) := by
      rw [hadded]
      exact List.mem_append_right earlier List.mem_cons_self
    obtain ⟨o, ho, hkey⟩ := exists_left_of_mem hrecalls.origins hmem
    obtain ⟨-, hsTags⟩ := Prod.mk.inj hkey
    have htag : tag ∈ s.tags := htag
    rw [hsTags, TagSet.mem_ofList] at htag
    exact History.writesTag_of_origins ho htag

/-- With settings without blanks, no identity of a loaded test case has a blank. -/
theorem unbroken_of_loadText {text : String} (hfeature : Text.Unbroken l.config.featurePrefix)
    (hscenario : Text.Unbroken l.config.scenarioPrefix) (h : (l.loadText text).result = .ok suite) :
    ∀ c ∈ suite, c.info.Unbroken := by
  intro c hc
  have hgroup := group_of_loadText h c hc
  obtain ⟨hname, htags⟩ := name_and_tags_of_loadText h c hc
  have hdot : Text.Unbroken "." := by decide
  have hunbroken : Text.Unbroken c.info.name := by
    rcases hname with hname | ⟨title, hname⟩
    · rw [hname]
      decide
    · rw [hname]
      exact hscenario.append (unbroken_slugify title)
  refine ⟨?_, fun tag htag => Session.unbroken_of_writesTag (htags tag htag)⟩
  unfold TestInfo.id
  rw [hgroup]
  exact ((hfeature.append (unbroken_slugify _)).append hdot).append hunbroken

/-- A stream that gives a suite is one of the bytes of a text. -/
theorem exists_loadText_of_loadStream {source : String} {stream : Stream}
    (h : (l.loadStream source stream).result = .ok suite) :
    ∃ text, (l.loadText text).result = .ok suite := by
  by_cases hbreaks : stream.failure ≠ none ∨ Stream.decode stream.bytes = none
  · obtain ⟨texts, reason, hbreaks⟩ := Stream.exists_breaks hbreaks
    unfold loadStream Session.parseStream at h
    rw [Stream.lines_of_breaks hbreaks] at h
    dsimp only at h
    rw [Session.parse_of_unreadable] at h
    generalize Session.fed _ _ source texts = fed at h
    obtain ⟨s, (fault | fault) | ⟨⟩⟩ := fed <;> cases h
  · obtain ⟨hends, hdecode⟩ := not_or.mp hbreaks
    obtain ⟨text, htext⟩ := Option.ne_none_iff_exists'.mp hdecode
    exact ⟨text, (loadStream_eq_loadText (not_not.mp hends) htext source).symm.trans h⟩

/-- **Loaded test cases** have no blanks in their identities and in their tags, if there are none in the
configured beginnings. -/
theorem unbroken_of_loadStream {source : String} {stream : Stream}
    (hfeature : Text.Unbroken l.config.featurePrefix) (hscenario : Text.Unbroken l.config.scenarioPrefix)
    (h : (l.loadStream source stream).result = .ok suite) : ∀ c ∈ suite, c.info.Unbroken := by
  obtain ⟨text, htext⟩ := exists_loadText_of_loadStream h
  exact unbroken_of_loadText hfeature hscenario htext

end Loader

end Acceptance
