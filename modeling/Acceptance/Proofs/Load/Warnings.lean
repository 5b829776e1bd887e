import Mathlib.Data.List.Infix
import Acceptance.Proofs.Document.Logging
import Acceptance.Proofs.Document.Opening
import Acceptance.Proofs.Load.Recall

/-!
# What loading warns of

Binding steps and expanding outlines logs details only. What is worth a warning is a step without definition,
and a scenario that takes the place of an earlier one of its name. A scenario that is added to the feature
either has a new name or is warned of, so the names and the warnings together count the scenarios that have
been added, for one event (`Draft.Recalls.replacements_handle`), for a course of events and for a text
(`Loader.replacements_of_loadText`).
-/

set_option autoImplicit false

namespace Acceptance

variable {W : Type}

/-! ## Computations that log details -/

namespace Logged

variable {ε ε' α β : Type}

/-- A computation that logs nothing above the level of details. -/
def OnlyDetails (x : Logged ε α) : Prop :=
  ∀ record ∈ x.log, record.level = .debug

/-- A sequence whose first part answers has the log of both parts. -/
theorem log_bind {x : Logged ε α} {f : α → Logged ε β} {a : α} (h : x.result = .ok a) :
    (x.bind f).log = x.log ++ (f a).log := by
  unfold Logged.bind
  rw [h]

/-- An answer alone logs nothing. -/
theorem onlyDetails_pure (a : α) : (pure a : Logged ε α).OnlyDetails :=
  List.forall_mem_nil _

/-- A sequence logs details only if both of its parts do. -/
theorem OnlyDetails.bind {x : Logged ε α} {f : α → Logged ε β} (hx : x.OnlyDetails)
    (hf : ∀ a, (f a).OnlyDetails) : (x.bind f).OnlyDetails := by
  unfold Logged.bind
  cases x.result with
  | error reason => exact hx
  | ok a => exact List.forall_mem_append.mpr ⟨hx, hf a⟩

/-- A traversal logs details only if each of its steps does. -/
theorem onlyDetails_traverse {f : α → Logged ε β} (hf : ∀ a, (f a).OnlyDetails) (as : List α) :
    (traverse f as).OnlyDetails := by
  induction as with
  | nil => exact onlyDetails_pure []
  | cons a as ih => exact (hf a).bind fun b => ih.bind fun bs => onlyDetails_pure (b :: bs)

end Logged

/-- Making a step logs details only. -/
theorem Step.onlyDetails_make (keyword : Keyword) (text : String) (r : Registry W) :
    (make keyword text r).OnlyDetails := by
  unfold make
  split
  · exact List.forall_mem_nil _
  · exact List.forall_mem_nil _
  · exact List.forall_mem_singleton.mpr rfl

/-- Filling a block logs details only. -/
theorem Block.onlyDetails_fill (b : Block W) (title : String) (values : Substitution) (r : Registry W) :
    (b.fill title values r).OnlyDetails := by
  have hstep (step : Step W) : (step.fill values r).OnlyDetails :=
    (Step.onlyDetails_make _ _ r).bind fun _ => Logged.onlyDetails_pure _
  exact (Logged.onlyDetails_traverse hstep b.steps).bind fun _ => Logged.onlyDetails_pure _

/-- To expand an outline is to log details. -/
theorem Scenario.onlyDetails_expand (outline : Scenario W) (examples : Examples) (r : Registry W) :
    (outline.expand examples r).OnlyDetails := by
  have hbackgrounds (values : Substitution) (backgrounds : List (Block W)) :
      (fillBackgrounds values r backgrounds).OnlyDetails := by
    cases backgrounds with
    | nil => exact Logged.onlyDetails_pure []
    | cons nearest others =>
      exact (nearest.onlyDetails_fill _ values r).bind fun _ => Logged.onlyDetails_pure _
  have hrow (number : Nat) (values : Substitution) : (outline.fillRow examples r number values).OnlyDetails :=
    (outline.toBlock.onlyDetails_fill _ _ r).bind fun _ =>
      (hbackgrounds _ _).bind fun _ => Logged.onlyDetails_pure _
  refine Logged.onlyDetails_traverse (fun row => ?_) _
  dsimp only [ofRow]
  split
  · exact List.forall_mem_nil _
  · exact hrow _ _

/-! ## Warnings of replacements -/

/-- Whether a record warns that a scenario of a document replaces an earlier one. -/
def LogRecord.warnsOfReplacement (source : String) (record : LogRecord) : Bool :=
  record.level == .warn && (source ++ ": scenario `").toList.isPrefixOf record.text.toList &&
    decide ("replaces an earlier scenario".toList <:+: record.text.toList)

/-- The number of warnings that a scenario of a document replaces an earlier one. -/
def Log.replacements (source : String) (log : Log) : Nat :=
  log.countP (LogRecord.warnsOfReplacement source)

namespace Log

variable {source : String} {log : Log}

/-- The replacements in two logs are added up. -/
@[simp] theorem replacements_append (first second : Log) :
    replacements source (first ++ second) = first.replacements source + second.replacements source :=
  List.countP_append

/-- Traces do not count. -/
theorem replacements_upTo : (log.upTo .debug).replacements source = log.replacements source := by
  unfold replacements upTo
  rw [List.countP_filter]
  refine List.countP_congr fun record _ => ?_
  simp only [Bool.and_eq_true, decide_eq_true_eq, and_iff_left_iff_imp]
  intro hwarns
  unfold LogRecord.warnsOfReplacement at hwarns
  simp only [Bool.and_eq_true, beq_iff_eq] at hwarns
  rw [hwarns.1.1]
  decide

/-- A log of details has no replacements. -/
theorem replacements_eq_zero_of_debug (h : ∀ record ∈ log, record.level = .debug) :
    log.replacements source = 0 := by
  unfold replacements
  rw [List.countP_eq_zero]
  intro record hrecord
  unfold LogRecord.warnsOfReplacement
  rw [h record hrecord]
  exact Bool.false_ne_true

end Log

/-- The warning that a scenario logs is the one that is counted. -/
theorem LogRecord.warnsOfReplacement_of_scenario (source title name : String) :
    warnsOfReplacement source
      ⟨.warn, source ++ ": scenario `" ++ title ++ "` replaces an earlier scenario named " ++ name⟩ =
        true := by
  set text := source ++ ": scenario `" ++ title ++ "` replaces an earlier scenario named " ++ name with htext
  have hmiddle : "` replaces an earlier scenario named ".toList =
      "` ".toList ++ "replaces an earlier scenario".toList ++ " named ".toList := by decide
  have hprefix : (source ++ ": scenario `").toList <+: text.toList := by
    refine ⟨(title ++ "` replaces an earlier scenario named " ++ name).toList, ?_⟩
    simp only [htext, String.toList_append, List.append_assoc]
  have hinfix : "replaces an earlier scenario".toList <:+: text.toList := by
    refine ⟨(source ++ ": scenario `" ++ title ++ "` ").toList, (" named " ++ name).toList, ?_⟩
    simp only [htext, String.toList_append, hmiddle, List.append_assoc]
  unfold warnsOfReplacement
  rw [List.isPrefixOf_iff_prefix.mpr hprefix, decide_eq_true hinfix]
  rfl

/-- A warning of a step without definition is none of a replacement, whatever the text of the step. -/
theorem LogRecord.warnsOfReplacement_of_step (source text : String) :
    warnsOfReplacement source ⟨.warn, source ++ ": undefined step `" ++ text ++ "`"⟩ = false := by
  have hprefix : ¬ (source ++ ": scenario `").toList <+:
      (source ++ ": undefined step `" ++ text ++ "`").toList := by
    simp only [String.toList_append, List.append_assoc, List.prefix_append_right_inj]
    simp
  have hfalse := mt List.isPrefixOf_iff_prefix.mp hprefix
  unfold warnsOfReplacement
  rw [Bool.eq_false_iff.mpr hfalse]
  rfl

namespace Draft

variable {config : NamingConfig} {r : Registry W} {m n : Stage} {event : Event} {events : List Event}
  {past : History} {added : List (Scenario W)} {d next : Draft W} {f : Feature W}

/-- **A scenario that is added has a new name or is warned of.** -/
theorem replacements_addScenario (config : NamingConfig) (hfeature : d.feature = some f) (s : Scenario W) :
    (d.addScenario config s).log.replacements d.source +
      (f.addScenario (nameOf config s) s).names.length = f.names.length + 1 := by
  have hlog : (d.addScenario config s).log =
      [if f.hasName (nameOf config s) then
        ⟨.warn, d.source ++ ": scenario `" ++ s.title ++ "` replaces an earlier scenario named " ++
          nameOf config s⟩
      else ⟨.debug, d.source ++ ": generated test case " ++ nameOf config s⟩] := by
    unfold addScenario
    rw [hfeature]
    rfl
  rw [hlog]
  by_cases hname : nameOf config s ∈ f.names
  · rw [if_pos (Feature.hasName_iff.mpr hname), Feature.names_addScenario_of_mem hname]
    unfold Log.replacements
    rw [List.countP_singleton, LogRecord.warnsOfReplacement_of_scenario]
    exact Nat.add_comm 1 f.names.length
  · rw [if_neg (mt Feature.hasName_iff.mp hname), Feature.names_addScenario_of_notMem hname,
      Log.replacements_eq_zero_of_debug (List.forall_mem_singleton.mpr rfl)]
    simp

/-- Each scenario added is one more name or one more warning. -/
theorem replacements_addScenarios (config : NamingConfig) (hfeature : d.feature = some f)
    (scenarios : List (Scenario W)) :
    (addScenarios config scenarios d).log.replacements d.source +
      (f.addAll (nameOf config) scenarios).names.length = f.names.length + scenarios.length := by
  induction scenarios generalizing d f with
  | nil => exact Nat.zero_add _
  | cons s scenarios ih =>
    have hlog : (addScenarios config (s :: scenarios) d).log = (d.addScenario config s).log ++
        (addScenarios config scenarios
          { d with feature := some (f.addScenario (nameOf config s) s) }).log := by
      refine Logged.log_bind ?_
      rw [addScenario_result, hfeature]
      rfl
    have hfirst := replacements_addScenario config hfeature s
    have hrest := ih (d := { d with feature := some (f.addScenario (nameOf config s) s) }) rfl
    have hall : f.addAll (nameOf config) (s :: scenarios) =
        (f.addScenario (nameOf config s) s).addAll (nameOf config) scenarios := rfl
    rw [hlog, hall, Log.replacements_append, List.length_cons]
    dsimp only at hrest
    omega

/-- **An examples block**: every scenario that comes of it has a new name or is warned of. -/
theorem replacements_closeExamples (hfeature : d.feature = some f)
    (h : (d.closeExamples config r).result = .ok next) :
    (d.closeExamples config r).log.replacements d.source +
        (f.addAll (nameOf config) (d.ended r .finishExamples)).names.length =
      f.names.length + (d.ended r .finishExamples).length := by
  match hexamples : d.examples, htable : d.table, houtline : d.outline with
  | some (label, tags), some table, some outline =>
    have hexpand := expand_of_closeExamples hexamples htable houtline h
    have hadded := replacements_addScenarios config (d := { d with examples := none, table := none })
      hfeature (d.ended r .finishExamples)
    have hdetails : Log.replacements d.source (outline.expand (.ofTable label tags table) r).log = 0 :=
      Log.replacements_eq_zero_of_debug (outline.onlyDetails_expand _ r)
    have hlog : (d.closeExamples config r).log = (outline.expand (.ofTable label tags table) r).log ++
        (addScenarios config (d.ended r .finishExamples)
          { d with examples := none, table := none }).log := by
      unfold closeExamples
      rw [hexamples, htable, houtline]
      exact Logged.log_bind (Logged.mapError_result_eq_ok.mpr hexpand)
    rw [hlog, Log.replacements_append, hdetails, Nat.zero_add]
    exact hadded
  | none, _, _ | some _, none, _ | some _, some _, none =>
    unfold closeExamples ended
    rw [hexamples, htable, houtline]
    exact Nat.zero_add _

/-- Closing a step warns of no replacement. -/
theorem replacements_closeStep : (d.closeStep r).log.replacements d.source = 0 := by
  unfold closeStep
  cases hstep : d.step with
  | none => rfl
  | some step =>
    obtain ⟨keyword, text⟩ := step
    have hmake : Log.replacements d.source (Step.make keyword text r).log = 0 :=
      Log.replacements_eq_zero_of_debug (Step.onlyDetails_make keyword text r)
    have hsource (step : Step W) : ({ d with step := none }.attach step).1.source = d.source := by
      unfold attach
      split
      · rfl
      · split <;> rfl
    dsimp only
    unfold Logged.bind Logged.mapError
    dsimp only
    cases hmade : (Step.make keyword text r).result with
    | error ambiguity => exact hmake
    | ok made =>
      dsimp only [Except.mapError]
      rw [Log.replacements_append, hmake, hsource]
      split
      · unfold Log.replacements
        rw [List.countP_singleton, LogRecord.warnsOfReplacement_of_step]
        rfl
      · rfl

/-- Nothing but the end of a scenario or of an examples block adds a scenario or warns of a replacement. -/
theorem replacements_handle_of_other (config : NamingConfig) (r : Registry W) (d : Draft W)
    (hscenario : event ≠ .finishScenario) (hexamples : event ≠ .finishExamples) :
    (d.handle config r event).log.replacements d.source = 0 ∧ d.ended r event = [] := by
  cases event with
  | finishScenario => exact absurd rfl hscenario
  | finishExamples => exact absurd rfl hexamples
  | finishStep => exact ⟨replacements_closeStep, rfl⟩
  | finishFeature =>
    refine ⟨Log.replacements_eq_zero_of_debug ?_, rfl⟩
    unfold handle closeFeature
    dsimp only
    split
    · exact List.forall_mem_nil _
    · exact List.forall_mem_singleton.mpr rfl
  | tableData cells =>
    refine ⟨?_, rfl⟩
    unfold handle
    dsimp only
    split
    · rfl
    · split <;> rfl
  | _ => exact ⟨rfl, rfl⟩

/-- The number of names among scenarios. -/
def nameCount (config : NamingConfig) (scenarios : List (Scenario W)) : Nat :=
  (scenarios.map (nameOf config)).eraseDups.length

/-- A feature has as many names as the scenarios added to it have different ones. -/
theorem Keeps.length_names (h : Keeps config added f) : f.names.length = nameCount config added :=
  congrArg List.length h.names_eq

/-- **Every event** adds as many scenarios as it adds names and warns of replacements. -/
theorem Recalls.replacements_handle (hmoves : Moves m event n) (h : Recalls config m past added d)
    (hnext : (d.handle config r event).result = .ok next) :
    (d.handle config r event).log.replacements d.source + nameCount config (added ++ d.ended r event) =
      nameCount config added + (d.ended r event).length := by
  have hother (hscenario : event ≠ .finishScenario) (hexamples : event ≠ .finishExamples) :
      (d.handle config r event).log.replacements d.source + nameCount config (added ++ d.ended r event) =
        nameCount config added + (d.ended r event).length := by
    obtain ⟨hlog, hended⟩ := replacements_handle_of_other config r d hscenario hexamples
    rw [hlog, hended, List.append_nil, List.length_nil, Nat.zero_add, Nat.add_zero]
  -- in the two cases that add something, the names of the feature are those of what has been added
  cases hmoves with
  | finishBlock k =>
    cases k with
    | background => exact hother nofun nofun
    | outline => exact hother nofun nofun
    | scenario =>
      obtain ⟨f, hfeature, -, hkeeps⟩ := h.feature (by decide) (by decide)
      obtain ⟨b, -, hb, -, -⟩ := h.exists_current
      have hadded := replacements_addScenario config (d := { d with current := none }) hfeature b
      have hended : d.ended r .finishScenario = [b] := congrArg Option.toList hb
      have hhandle : d.handle config r .finishScenario =
          { d with current := none }.addScenario config b := by
        unfold handle
        rw [hb]
      have hall : f.addAll (nameOf config) [b] = f.addScenario (nameOf config b) b := rfl
      have hnames := (hkeeps.addAll [b]).length_names
      rw [BlockKind.finish, hhandle, hended, ← hnames, ← hkeeps.length_names, hall]
      exact hadded
  | finishExamples =>
    obtain ⟨f, hfeature, -, hkeeps⟩ := h.feature (by decide) (by decide)
    have hadded := replacements_closeExamples hfeature hnext
    rw [← (hkeeps.addAll _).length_names, ← hkeeps.length_names]
    exact hadded
  | startBlock k => cases k <;> exact hother nofun nofun
  | _ => exact hother nofun nofun

/-- The source of a document is set where the document begins. -/
theorem source_handle (hevent : ∀ source, event ≠ .startParse source)
    (h : (d.handle config r event).result = .ok next) : next.source = d.source := by
  cases event with
  | startParse source => exact absurd rfl (hevent source)
  | finishStep =>
    obtain ⟨_, _, _, rfl⟩ := exists_closeStep_result h
    rfl
  | finishExamples => rw [closeExamples_result h]
  | tableData cells => rw [tableData_result h]
  | finishScenario => rw [finishScenario_result h]
  | finishFeature => rw [closeFeature_result h]
  | _ =>
    cases h
    rfl

/-- The log of a run is that of its first event and that of the rest. -/
theorem logAll_builder_cons (h : (d.handle config r event).result = .ok next) :
    (builder config r).logAll d (event :: events) =
      (d.handle config r event).log ++ (builder config r).logAll next events := by
  have hreply : (builder config r).handle d event =
      { state := next, log := (d.handle config r event).log } := by
    unfold builder
    dsimp only
    rw [h]
  rw [Handler.logAll, hreply]

/-- **A course of events** adds as many scenarios as it adds names and warns of replacements. -/
theorem Recalls.replacements_logAll {final : Draft W} (course : Course m events n)
    (hanswers : (builder config r).answerAll d events = .ok final) (h : Recalls config m past added d)
    (hevents : ∀ event ∈ events, ∀ source, event ≠ .startParse source) :
    ((builder config r).logAll d events).replacements d.source +
        nameCount config (added ++ d.candidates config r events) =
      nameCount config added + (d.candidates config r events).length := by
  induction course generalizing past added d with
  | nil =>
    unfold Draft.candidates
    rw [List.append_nil]
    exact Nat.zero_add _
  | cons hmoves _ ih =>
    obtain ⟨next, hanswer, hrest⟩ := Handler.answerAll_cons_eq_ok.mp hanswers
    have hnext := answer_builder.mp hanswer
    obtain ⟨hevent, hevents⟩ := List.forall_mem_cons.mp hevents
    have hfirst := h.replacements_handle hmoves hnext
    have hrest := ih hrest (h.step hmoves hnext) hevents
    rw [source_handle hevent hnext] at hrest
    rw [logAll_builder_cons hnext, candidates_cons hnext, Log.replacements_append, List.length_append,
      ← List.append_assoc]
    omega

end Draft

namespace Loader

variable {l : Loader W} {text : String} {suite : Suite W}

/-- Apart from traces, a loader logs what building the suite logs. -/
theorem log_of_loadText (h : (l.loadText text).result = .ok suite) :
    (l.loadText text).log.upTo .debug =
      ((Draft.builder l.config l.registry).logAll {} (Session.eventsOf text)).upTo .debug := by
  obtain ⟨s, hparse, hlog, -⟩ := exists_session_of_loadText h
  have hlogs := Session.parse_logs (h := Draft.builder l.config l.registry) Session.textSource
    (linesOf text) none { state := {} }
  rw [hparse] at hlogs
  rw [← hlog, Session.eventsOf_eq]
  exact hlogs rfl

/-- **Nothing vanishes unreported**: among the candidates of a text there are as many as there are names and
warnings of replacements. -/
theorem replacements_of_loadText (h : (l.loadText text).result = .ok suite) :
    let candidates := ({} : Draft W).candidates l.config l.registry (Session.eventsOf text)
    (l.loadText text).log.replacements Session.textSource + Draft.nameCount l.config candidates =
      candidates.length := by
  intro candidates
  obtain ⟨⟨d, hanswers, -⟩, m, hcourse, -⟩ := exists_answerAll_of_loadText h
  rw [← Log.replacements_upTo, log_of_loadText h, Log.replacements_upTo]
  -- the document begins with the event that sets the source, and no other event sets it
  obtain ⟨rest, hevents, hrest⟩ := Transcript.exists_rest_of_ofLines (fault_of_loadText h)
  rw [← Session.eventsOf_eq] at hevents
  have hnext : (({} : Draft W).handle l.config l.registry (.startParse Session.textSource)).result =
      .ok { source := Session.textSource } := rfl
  have hcandidates : candidates =
      ({ source := Session.textSource } : Draft W).candidates l.config l.registry rest := by
    unfold candidates
    rw [hevents, Draft.candidates_cons hnext]
    rfl
  rw [hevents] at hanswers hcourse ⊢
  rw [hcandidates, Draft.logAll_builder_cons hnext]
  obtain ⟨next, hanswer, hanswers⟩ := Handler.answerAll_cons_eq_ok.mp hanswers
  cases hanswer
  cases hcourse with
  | cons hmoves hcourse =>
    have hrecalls := (Draft.recalls_nil l.config).step hmoves hnext
    have hcount := hrecalls.replacements_logAll hcourse hanswers hrest
    exact hcount.trans (Nat.zero_add _)

end Loader

end Acceptance
