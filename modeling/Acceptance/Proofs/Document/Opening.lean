import Acceptance.Proofs.Document.Course
import Acceptance.Proofs.Document.LineClass

/-!
# How a document opens

The beginning of a document is reported once, before all else. Its feature begins with the first line of
that class, so a document has a feature just where it has such a line
(`Transcript.exists_startFeature_iff`).
-/

set_option autoImplicit false

namespace Acceptance

open Acceptance.Grammar

namespace Grammar

/-- No line begins a document: that is reported before the first one. -/
theorem Action.event_ne_startParse {a : Action} {parts : List String} {event : Event}
    (h : a.event parts = .ok event) (source : String) : event ≠ .startParse source := by
  cases a with
  | startStep =>
    obtain ⟨keyword, text, rfl⟩ := Action.eq_startStep_of_event h
    exact Event.noConfusion
  | _ => cases h; exact Event.noConfusion

/-- The beginning of a feature is reported by its own action only. -/
theorem Action.eq_of_event_startFeature {a : Action} {parts : List String} {title : String}
    (h : a.event parts = .ok (.startFeature title)) : a = .startFeature := by
  cases a with
  | startFeature => rfl
  | startStep =>
    obtain ⟨keyword, text, hevent⟩ := Action.eq_startStep_of_event h
    cases hevent
  | _ => cases h

/-- Every event comes of one of the actions. -/
theorem Reports.exists_action {parts : List String} {actions : List Action} {events : List Event}
    {event : Event} (h : Reports parts actions events) (hevent : event ∈ events) :
    ∃ a ∈ actions, a.event parts = .ok event := by
  induction h with
  | nil => cases hevent
  | @cons a first _ _ hfirst _ ih =>
    rcases List.mem_cons.mp hevent with rfl | hevent
    · exact ⟨a, List.mem_cons_self, hfirst⟩
    · obtain ⟨b, hb, hrest⟩ := ih hevent
      exact ⟨b, List.mem_cons_of_mem _ hb, hrest⟩

/-- A row that begins a feature is one for lines of that class. -/
theorem matcher_of_startFeature_mem : ∀ s : State, ∀ row ∈ standard.rows s,
    Action.startFeature ∈ row.actions → row.matcher = .feature := by
  intro s
  cases s <;> decide

/-- Before the feature there are comments, tags and its header. -/
theorem row_of_start : ∀ row ∈ standard.rows .start,
    row.matcher = .endOfInput ∨ row = ⟨.feature, [.startFeature], .feature⟩ ∨
      row = commentIn .start ∨ row = ⟨.tags, [.tags], .start⟩ := by
  decide

end Grammar

/-! ## The beginning of a document -/

/-- No line reports the beginning of a document. -/
theorem Grammar.tracks_startParse :
    Tracks (fun (_ : Unit) events _ => ∀ event ∈ events, ∀ source, event ≠ .startParse source)
      fun _ _ => True where
  nil _ := List.forall_mem_nil _
  append hfirst hsecond := List.forall_mem_append.mpr ⟨hfirst, hsecond⟩
  row := by
    intro _ s row parts events _ _ hevents
    refine ⟨(), fun event hmem => ?_, trivial⟩
    obtain ⟨a, -, hevent⟩ := hevents.exists_action hmem
    exact Action.event_ne_startParse hevent
  blank line _ _ := ⟨(), List.forall_mem_singleton.mpr fun _ => Event.noConfusion, trivial⟩

/-- **A document begins once.** -/
theorem Transcript.exists_rest_of_ofLines {source : String} {lines : List String}
    {unreadable : Option String} (h : (ofLines source lines unreadable).fault = none) :
    ∃ rest, (ofLines source lines unreadable).events = .startParse source :: rest ∧
      ∀ event ∈ rest, ∀ other, event ≠ .startParse other := by
  obtain ⟨body, closing, rfl, -, rfl, -, hdocument⟩ := ofLines_of_fault_eq_none h
  obtain ⟨-, hlines, -⟩ := Grammar.tracks_startParse.reportAll (a := ()) (p := {}) trivial lines
  obtain ⟨-, hend, -⟩ := Grammar.tracks_startParse.report (a := ())
    (p := (({} : Parser).reportAll lines).parser) trivial none
  refine ⟨_, by rw [hdocument, List.cons_append], ?_⟩
  refine List.forall_mem_append.mpr ⟨List.forall_mem_append.mpr ⟨hlines, hend⟩, ?_⟩
  exact List.forall_mem_singleton.mpr fun _ => Event.noConfusion

/-! ## The feature of a document -/

namespace Parser

variable {p : Parser} {line : String} {lines : List String} {title : String}

/-- A line that a row accepts is of the class of the row. -/
theorem ofLine_of_accepts {row : Transition} {parts : List String} {c : LineClass}
    (h : p.Accepts row parts (some line)) (hclass : row.matcher.lineClass? = some c) :
    LineClass.ofLine line = c := by
  rw [LineClass.ofLine_eq_iff hclass]
  unfold Accepts partsOf at h
  cases hmatcher : row.matcher with
  | endOfInput | multilineClose | multilineContent | text =>
    rw [hmatcher] at hclass
    cases hclass
  | multilineOpen =>
    rw [hmatcher] at h
    rw [Except.ok.inj h]
    rfl
  | _ =>
    rw [hmatcher] at h
    obtain ⟨captured, hcaptured, -⟩ := Option.map_eq_some_iff.mp (Except.ok.inj h)
    rw [hcaptured]
    rfl

/-- A feature begins with a line of its class, and nowhere else. -/
theorem featureLine_of_report {line : Option String} (h : .startFeature title ∈ (p.report line).events) :
    ∃ text, line = some text ∧ LineClass.ofLine text = .feature := by
  rcases p.report_cases line with ⟨fault, -, hreport⟩ | ⟨text, -, -, -, hreport⟩ |
    ⟨row, parts, events, hrow, haccepts, hevents, hreport⟩
  · rw [hreport] at h
    cases h
  · rw [hreport] at h
    cases List.mem_singleton.mp h
  · rw [hreport] at h
    obtain ⟨a, ha, hevent⟩ := hevents.exists_action h
    obtain rfl := Action.eq_of_event_startFeature hevent
    have hmatcher := matcher_of_startFeature_mem p.state row hrow ha
    cases line with
    | none =>
      rw [haccepts.1] at hmatcher
      cases hmatcher
    | some text => exact ⟨text, rfl, ofLine_of_accepts haccepts (by rw [hmatcher]; rfl)⟩

/-- A feature begins with a line of its class. -/
theorem featureLine_of_reportAll (h : .startFeature title ∈ (p.reportAll lines).events) :
    ∃ text ∈ lines, LineClass.ofLine text = .feature := by
  induction lines generalizing p with
  | nil => cases h
  | cons line lines ih =>
    have hhere (h : .startFeature title ∈ (p.report (some line)).events) :
        ∃ text ∈ line :: lines, LineClass.ofLine text = .feature := by
      obtain ⟨text, hline, hclass⟩ := featureLine_of_report h
      obtain rfl := Option.some.inj hline
      exact ⟨line, List.mem_cons_self, hclass⟩
    unfold reportAll at h
    cases hfault : (p.report (some line)).fault with
    | some fault =>
      rw [Transcript.andThen_of_some hfault] at h
      exact hhere h
    | none =>
      rw [Transcript.andThen_of_none hfault] at h
      rcases List.mem_append.mp h with h | h
      · exact hhere h
      · obtain ⟨text, htext, hclass⟩ := ih h
        exact ⟨text, List.mem_cons_of_mem _ htext, hclass⟩

/-- **Before the feature** a line begins it, if it is its header, and else leaves the document where it is. -/
theorem report_of_start (hstart : p.state = .start) (hok : (p.report (some line)).fault = none) :
    (LineClass.ofLine line = .feature ∧ (∃ title, (p.report (some line)).events = [.startFeature title]) ∧
        (p.report (some line)).parser.state = .feature) ∨
      (LineClass.ofLine line ≠ .feature ∧
        (∃ event, (p.report (some line)).events = [event] ∧ Moves .outside event .outside) ∧
        (p.report (some line)).parser.state = .start) := by
  rcases p.report_cases (some line) with ⟨fault, -, hreport⟩ | ⟨text, hline, hblank, -, hreport⟩ |
    ⟨row, parts, events, hrow, haccepts, hevents, hreport⟩
  · rw [hreport] at hok
    cases hok
  · obtain rfl := Option.some.inj hline
    rw [hreport, state_count, LineClass.ofLine_eq_blank.mpr hblank]
    exact .inr ⟨by decide, ⟨_, rfl, .whitespace line rfl⟩, hstart⟩
  · rw [hreport]
    rw [hstart] at hrow
    rcases row_of_start row hrow with hmatcher | rfl | rfl | rfl
    · rw [Accepts, hmatcher] at haccepts
      cases haccepts
    all_goals
      rw [ofLine_of_accepts haccepts rfl]
      obtain _ | ⟨hevent, ⟨⟩⟩ := hevents
      cases hevent
    · exact .inl ⟨rfl, ⟨_, rfl⟩, rfl⟩
    · exact .inr ⟨by decide, ⟨_, rfl, .comment _ rfl⟩, rfl⟩
    · exact .inr ⟨by decide, ⟨_, rfl, .tags _ (.inl rfl)⟩, rfl⟩

/-- The first line of that class begins a feature. -/
theorem startFeature_of_featureLine (hstart : p.state = .start) (hok : (p.reportAll lines).fault = none)
    (h : ∃ text ∈ lines, LineClass.ofLine text = .feature) :
    ∃ title, .startFeature title ∈ (p.reportAll lines).events := by
  induction lines generalizing p with
  | nil =>
    obtain ⟨text, htext, -⟩ := h
    cases htext
  | cons line lines ih =>
    unfold reportAll at hok ⊢
    obtain ⟨hfault, hrest⟩ := Transcript.fault_andThen_eq_none.mp hok
    rw [Transcript.andThen_of_none hfault]
    rcases report_of_start hstart hfault with ⟨-, ⟨title, htitle⟩, -⟩ | ⟨hother, -, hstate⟩
    · exact ⟨title, List.mem_append_left _ (by rw [htitle]; exact List.mem_singleton_self _)⟩
    · obtain ⟨text, htext, hclass⟩ := h
      rcases List.mem_cons.mp htext with rfl | htext
      · exact absurd hclass hother
      · obtain ⟨title, htitle⟩ := ih hstate hrest ⟨text, htext, hclass⟩
        exact ⟨title, List.mem_append_right _ htitle⟩

end Parser

/-- **A document has a feature** just where it has a line that begins one. -/
theorem Transcript.exists_startFeature_iff {source : String} {lines : List String}
    {unreadable : Option String} (h : (ofLines source lines unreadable).fault = none) :
    (∃ title, .startFeature title ∈ (ofLines source lines unreadable).events) ↔
      ∃ line ∈ lines, LineClass.ofLine line = .feature := by
  obtain ⟨body, closing, rfl, hbody, rfl, -, hdocument⟩ := ofLines_of_fault_eq_none h
  rw [hdocument]
  constructor
  · rintro ⟨title, htitle⟩
    rcases List.mem_append.mp htitle with hmem | hmem
    · rcases List.mem_append.mp ((List.mem_cons.mp hmem).resolve_left Event.noConfusion) with
        hmem | hmem
      · exact Parser.featureLine_of_reportAll hmem
      · obtain ⟨text, hnone, -⟩ := Parser.featureLine_of_report hmem
        cases hnone
    · cases List.mem_singleton.mp hmem
  · intro hline
    obtain ⟨title, htitle⟩ := Parser.startFeature_of_featureLine (p := {}) rfl hbody hline
    exact ⟨title, List.mem_append_left _ (List.mem_cons_of_mem _ (List.mem_append_left _ htitle))⟩

end Acceptance
