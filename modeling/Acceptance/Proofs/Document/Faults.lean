import Acceptance.Proofs.Document.Progress
import Acceptance.Proofs.Document.Recognition

/-!
# Where a document is at fault

A fault names the line that it is about, and says of the document what `Parser.Faults` says: that no row of
the state accepts the line, that the line is indented less than the open block, or that the document cannot
end here. The lines before it were read without failure, and the line itself changes nothing but the count of
lines, so the fault depends on the lines up to it and on nothing that the session did before
(`Session.locates_faults`).
-/

set_option autoImplicit false

namespace Acceptance

open Acceptance.Grammar

variable {σ ε : Type}

/-! ## What a fault means -/

namespace Grammar

/-- The states in which the input must not end are those of open multiline blocks and of an examples block
without a table. -/
theorem State.eq_of_no_endOfInput : ∀ s : State, s ≠ .ended →
    (∀ row ∈ standard.rows s, row.matcher ≠ .endOfInput) →
    s ∈ [State.backgroundMultiline, .scenarioMultiline, .outlineMultiline, .examples] := by
  intro s
  cases s <;> decide

end Grammar

namespace Parser

variable {p : Parser} {line : Option String} {text : String} {rows : List Transition}
  {fault : ParseFault}

/-- What is wrong with a line, or with the end of input, where it is a fault. -/
inductive Faults (p : Parser) : Option String → ParseFault → Prop where
  | unexpectedLine (text : String) :
      Text.isBlankText text = false →
      (∀ row ∈ standard.rows p.state, p.partsOf row.matcher text = .ok none) →
      Faults p (some text) (.unexpectedLine p.lineNumber p.state text p.expected)
  | dedent (indent : Nat) (text : String) :
      Text.isBlankText text = false →
      p.state.afterBlock? ≠ none →
      p.indent = some indent →
      width text < indent →
      ¬ Delimits indent text →
      Faults p (some text) (.dedent p.lineNumber indent text)
  | unexpectedEnd :
      (∀ row ∈ standard.rows p.state, row.matcher ≠ .endOfInput) →
      Faults p none (.unexpectedEnd p.state p.expected)

/-- Where no row takes a text, none of their matchers does. -/
theorem partsOf_of_firstRow (h : p.firstRow (some text) rows = .ok none) :
    ∀ row ∈ rows, p.partsOf row.matcher text = .ok none := by
  induction rows with
  | nil => simp
  | cons first rows ih =>
    unfold firstRow at h
    dsimp only at h
    cases hparts : p.partsOf first.matcher text with
    | error fault =>
      rw [hparts] at h
      cases h
    | ok parts =>
      rw [hparts] at h
      cases parts with
      | some parts => cases h
      | none => exact List.forall_mem_cons.mpr ⟨hparts, ih h⟩

/-- A fault that is met while a row is sought comes of the matcher of one of the rows. -/
theorem exists_row_of_firstRow (h : p.firstRow line rows = .error fault) :
    ∃ text, line = some text ∧ ∃ row ∈ rows, p.partsOf row.matcher text = .error fault := by
  cases line with
  | none =>
    rw [firstRow_none] at h
    cases h
  | some text =>
    refine ⟨text, rfl, ?_⟩
    induction rows with
    | nil => cases h
    | cons first rows ih =>
      unfold firstRow at h
      dsimp only at h
      cases hparts : p.partsOf first.matcher text with
      | error other =>
        rw [hparts] at h
        cases h
        exact ⟨first, by simp, hparts⟩
      | ok parts =>
        rw [hparts] at h
        cases parts with
        | some parts => cases h
        | none =>
          obtain ⟨row, hrow, herror⟩ := ih h
          exact ⟨row, List.mem_cons_of_mem _ hrow, herror⟩

/-- Only content can be a fault by itself, and only where it is indented less than its block. -/
theorem dedent_of_partsOf {m : Matcher} (h : p.partsOf m text = .error fault) :
    m = .multilineContent ∧ ∃ indent, p.indent = some indent ∧ width text < indent ∧
      Text.isBlankText text = false ∧ fault = .dedent p.lineNumber indent text := by
  have hcontent : m = .multilineContent := by
    unfold partsOf at h
    cases m with
    | multilineContent => rfl
    | multilineClose =>
      dsimp only at h
      split at h <;> cases h
    | _ => cases h
  subst hcontent
  refine ⟨rfl, ?_⟩
  have hparts : p.contentParts text = .error fault := by
    unfold partsOf at h
    dsimp only at h
    cases hparts : p.contentParts text with
    | error other =>
      rw [hparts] at h
      cases h
      rfl
    | ok parts =>
      rw [hparts] at h
      cases h
  unfold contentParts at hparts
  dsimp only at hparts
  split at hparts
  · next hdedent =>
    simp only [Bool.and_eq_true, decide_eq_true_eq, Bool.not_eq_true'] at hdedent
    obtain ⟨hnarrow, hblank⟩ := hdedent
    cases hparts
    cases hindent : p.indent with
    | none =>
      rw [hindent, Option.getD_none] at hnarrow
      omega
    | some indent =>
      rw [hindent, Option.getD_some] at hnarrow
      exact ⟨indent, rfl, hnarrow, hblank, rfl⟩
  · cases hparts

/-- **What a fault means**: the line, or the end of input, is wrong in the way that the fault says. -/
theorem faults_of_read (h : p.read line = .fault fault) : p.Faults line fault := by
  unfold read at h
  cases hfirst : p.firstRow line (standard.rows p.state) with
  | error other =>
    rw [hfirst] at h
    cases h
    obtain ⟨text, rfl, row, hrow, hparts⟩ := exists_row_of_firstRow hfirst
    obtain ⟨hcontent, indent, hindent, hnarrow, hblank, rfl⟩ := dedent_of_partsOf hparts
    have hinside : p.state.afterBlock? ≠ none := fun houtside =>
      (p.state.matcher_ne_of_afterBlock? houtside row hrow).2 hcontent
    refine .dedent indent text hblank hinside hindent hnarrow fun hcloses => ?_
    -- a delimiter of the block would have ended it before the line was tried as content
    obtain ⟨t, ht⟩ := Option.ne_none_iff_exists'.mp hinside
    obtain ⟨hrows, -⟩ := p.state.inside_of_afterBlock? t ht
    rw [hrows, multilineRows, firstRow, partsOf_multilineClose hindent, if_pos hcloses] at hfirst
    cases hfirst
  | ok found =>
    rw [hfirst] at h
    cases found with
    | some found => cases h
    | none =>
      cases line with
      | some text =>
        dsimp only at h
        by_cases hblank : Text.isBlankText text = true
        · rw [if_pos hblank] at h
          cases h
        · rw [if_neg hblank] at h
          cases h
          exact .unexpectedLine text (Bool.not_eq_true _ ▸ hblank) (partsOf_of_firstRow hfirst)
      | none =>
        cases h
        refine .unexpectedEnd fun row hrow hend => ?_
        rw [firstRow_none] at hfirst
        have hnone := Option.map_eq_none_iff.mp (Except.ok.inj hfirst)
        exact absurd (decide_eq_true hend) (List.find?_eq_none.mp hnone row hrow)

namespace Faults

variable {number indent : Nat} {state : State} {expected : List Matcher}

/-- A fault has the number of the line that has been read, and none at the end of input. -/
theorem lineNumber?_eq (h : p.Faults line fault) :
    fault.lineNumber? = line.map fun _ => p.lineNumber := by
  cases h <;> rfl

/-- An unexpected line is one that no row of the state takes, and what was expected are the matchers of all
of them. -/
theorem of_unexpectedLine (h : p.Faults line (.unexpectedLine number state text expected)) :
    line = some text ∧ p.state = state ∧
      (∀ row ∈ standard.rows state, p.partsOf row.matcher text = .ok none) ∧
      expected = (standard.rows state).map (·.matcher) := by
  cases h with
  | unexpectedLine _ _ hrows => exact ⟨rfl, rfl, hrows, rfl⟩

/-- A line is reported as outdented inside a multiline block only, where it is indented less than the
opening line and does not close the block. -/
theorem of_dedent (h : p.Faults line (.dedent number indent text)) :
    line = some text ∧
      p.state ∈ [State.backgroundMultiline, .scenarioMultiline, .outlineMultiline] ∧
      p.indent = some indent ∧ width text < indent ∧ ¬ Delimits indent text := by
  cases h with
  | dedent _ _ _ hinside hindent hnarrow hcloses =>
    refine ⟨rfl, ?_, hindent, hnarrow, hcloses⟩
    revert hinside
    cases p.state <;> decide

/-- The end of input is unexpected only where the state has no row for it. -/
theorem of_unexpectedEnd (h : p.Faults line (.unexpectedEnd state expected)) (hended : p.state ≠ .ended) :
    p.state = state ∧
      state ∈ [State.backgroundMultiline, .scenarioMultiline, .outlineMultiline, .examples] ∧
      expected = (standard.rows state).map (·.matcher) := by
  cases h with
  | unexpectedEnd hrows => exact ⟨rfl, p.state.eq_of_no_endOfInput hended hrows, rfl⟩

end Faults

end Parser

namespace Session

variable {h : Handler σ ε} {s : Session σ} {source : String} {lines : List String}
  {fault : ParseFault}

/-! ## Where a reading stops -/

/-- A fault that a session ends with is the fault of its transcript. -/
theorem Follows.fault_of_outcome {t : Transcript} {ended : Session σ × ReadOutcome ε}
    (follows : Follows h s t ended) (hfault : ended.2 = .error (.fault fault)) :
    t.fault = some fault := by
  cases hanswers : h.answerAll s.state t.events with
  | error reason =>
    rw [follows.of_error hanswers] at hfault
    cases hfault
  | ok state =>
    obtain ⟨-, -, houtcome⟩ := follows.of_ok hanswers
    rw [houtcome, Transcript.outcome] at hfault
    cases ht : t.fault with
    | none =>
      rw [ht] at hfault
      cases hfault
    | some other =>
      rw [ht] at hfault
      cases hfault
      rfl

/-- **A line at fault** changes nothing but the count of lines. -/
theorem feed_of_fault {line : Option String} (hfault : (feed h s line).2 = .error (.fault fault)) :
    (s.parser.count line).Faults line fault ∧
      feed h s line = ({ s with parser := s.parser.count line }, .error (.fault fault)) := by
  have hreport := (feed_follows line s).fault_of_outcome hfault
  have hread : (s.parser.count line).read line = .fault fault := by
    cases hread : (s.parser.count line).read line with
    | fault other =>
      rw [Parser.report_of_fault hread] at hreport
      rw [Option.some.inj hreport]
    | blank text =>
      rw [Parser.report_of_blank hread] at hreport
      cases hreport
    | fires row parts =>
      obtain ⟨events, -, hevents⟩ := Parser.report_of_fires hread
      rw [hevents] at hreport
      cases hreport
  refine ⟨Parser.faults_of_read hread, ?_⟩
  unfold feed
  dsimp only
  rw [hread]

/-- Telling a handler of an event fails with a refusal of the handler, and not with a fault of the text. -/
theorem send_ne_fault (event : Event) : (send h s event).2 ≠ .error (.fault fault) := by
  intro hfault
  have hnone := (send_follows event s).fault_of_outcome hfault
  cases hnone

/-- A fault at the end of input is the parser's, and leaves the session as it was. -/
theorem finish_of_fault (hfault : (finish h s).2 = .error (.fault fault)) :
    s.parser.Faults none fault ∧ (finish h s).1 = s := by
  rw [finish_eq_goOn] at hfault ⊢
  cases hend : (feed h s none).2 with
  | ok _ =>
    rw [goOn_of_ok hend] at hfault
    exact absurd hfault (send_ne_fault _)
  | error failure =>
    rw [goOn_of_error hend] at hfault ⊢
    obtain ⟨hfaults, hfeed⟩ := feed_of_fault hfault
    exact ⟨hfaults, congrArg Prod.fst hfeed⟩

/-- A reading of lines that stopped at one of them, where the session stood at `reached`. -/
structure StopsAt (h : Handler σ ε) (s : Session σ) (source : String) (lines : List String)
    (number : Nat) (line : String) (reached : Session σ) : Prop where
  /-- The line is the one with the number, counted from one. -/
  located : 0 < number ∧ lines[number - 1]? = some line
  notBlank : Text.isBlankText line = false
  /-- All lines before it were read without failure. -/
  accepted : s.fed h source (lines.take (number - 1)) = (reached, .ok ())
  /-- Nothing is reported about the line. It is counted, and all else is left as it was. -/
  stopped : (s.parseLines h source lines).1 =
    { reached with parser := reached.parser.count (some line) }
  /-- Whatever stands behind the line, the reading ends the same. -/
  decided : ∀ others, s.parseLines h source (lines.take number ++ others) = s.parseLines h source lines

/-- Lines that fail with a fault stop at the line with the number of the fault. -/
theorem exists_stopsAt_of_fed (hfault : (s.fed h source lines).2 = .error (.fault fault)) :
    ∃ line reached, StopsAt h s source lines (reached.parser.count (some line)).lineNumber line reached ∧
      (reached.parser.count (some line)).Faults (some line) fault := by
  unfold fed at hfault
  cases hbegin : (begin h s source).2 with
  | error failure =>
    rw [goOn_of_error hbegin] at hfault
    exact absurd hfault (send_ne_fault _)
  | ok _ =>
    rw [goOn_of_ok hbegin] at hfault
    obtain ⟨before, line, behind, reached, rfl, hbefore, hline⟩ := exists_line_of_feedAll hfault
    rw [← hline] at hfault
    obtain ⟨hfaults, hfeed⟩ := feed_of_fault hfault
    have hreached : s.fed h source before = (reached, .ok ()) := by
      rw [fed, goOn_of_ok hbegin, hbefore]
    have hnumber : (reached.parser.count (some line)).lineNumber = before.length + 1 :=
      congrArg (· + 1) (parser_of_fed hreached).1
    -- the session that the line has stopped, and that no other line moves on
    have hstopped : s.fed h source (before ++ [line]) =
        ({ reached with parser := reached.parser.count (some line) }, .error (.fault fault)) := by
      have hready : (s.fed h source before).2 = .ok () := by rw [hreached]
      rw [fed_append, goOn_of_ok hready, hreached, feedAll_cons, hfeed]
      rfl
    have hends (others : List String) :
        s.parseLines h source (before ++ [line] ++ others) = s.fed h source (before ++ [line]) :=
      parseLines_append_of_error (by rw [hstopped]) others
    have hlines : before ++ line :: behind = before ++ [line] ++ behind := by simp
    have htake : (before ++ line :: behind).take (before.length + 1) = before ++ [line] := by
      rw [hlines]
      exact List.take_left' (by simp)
    refine ⟨line, reached, ?_, hfaults⟩
    rw [hnumber]
    refine ⟨⟨by omega, by simp⟩, ?_, ?_, ?_, fun others => ?_⟩
    · cases hfaults <;> assumption
    · rw [Nat.add_sub_cancel, List.take_left' rfl]
      exact hreached
    · rw [hlines, hends, hstopped]
    · rw [htake, hends, hlines, hends]

/-- **Faults of documents**: a reading with a fault has stopped at a line, or it has come through all of them
and found no end. -/
theorem exists_faults_of_parseLines (hfault : (s.parseLines h source lines).2 = .error (.fault fault)) :
    (∃ line reached, StopsAt h s source lines (reached.parser.count (some line)).lineNumber line reached ∧
        (reached.parser.count (some line)).Faults (some line) fault) ∨
      ∃ reached, s.fed h source lines = (reached, .ok ()) ∧ reached.parser.Faults none fault ∧
        (s.parseLines h source lines).1 = reached := by
  cases hfed : (s.fed h source lines).2 with
  | error failure =>
    have hended := parseLines_append_of_error hfed []
    rw [List.append_nil] at hended
    rw [hended] at hfault
    exact .inl (exists_stopsAt_of_fed hfault)
  | ok _ =>
    rw [parseLines_eq_goOn, goOn_of_ok hfed] at hfault ⊢
    exact .inr ⟨(s.fed h source lines).1, Prod.ext rfl hfed, finish_of_fault hfault⟩

/-- A fault with the number of a line has stopped the reading there. -/
theorem exists_stopsAt_of_lineNumber {number : Nat}
    (hfault : (s.parseLines h source lines).2 = .error (.fault fault))
    (hnumber : fault.lineNumber? = some number) :
    ∃ line reached, StopsAt h s source lines number line reached ∧
      (reached.parser.count (some line)).Faults (some line) fault := by
  rcases exists_faults_of_parseLines hfault with ⟨line, reached, hstops, hfaults⟩ | ⟨_, -, hfaults, -⟩
  · have hat : fault.lineNumber? = some (reached.parser.count (some line)).lineNumber :=
      hfaults.lineNumber?_eq
    obtain rfl := Option.some.inj (hat.symm.trans hnumber)
    exact ⟨line, reached, hstops, hfaults⟩
  · have hat : fault.lineNumber? = none := hfaults.lineNumber?_eq
    rw [hat] at hnumber
    cases hnumber

/-- A fault without the number of a line has come behind all lines. -/
theorem exists_fed_of_lineNumber (hfault : (s.parseLines h source lines).2 = .error (.fault fault))
    (hnumber : fault.lineNumber? = none) :
    ∃ reached, s.fed h source lines = (reached, .ok ()) ∧ reached.parser.Faults none fault ∧
      (s.parseLines h source lines).1 = reached := by
  rcases exists_faults_of_parseLines hfault with ⟨line, reached, -, hfaults⟩ | hend
  · have hat : fault.lineNumber? = some (reached.parser.count (some line)).lineNumber :=
      hfaults.lineNumber?_eq
    rw [hat] at hnumber
    cases hnumber
  · exact hend

/-- **Faults are located exactly, and depend on no more than the lines up to them**, whatever the session has
read before. A handler that keeps every event shows that nothing is reported about the line at fault. -/
theorem locates_faults (h : Handler σ ε) (s : Session (σ × List Event)) (source : String)
    (lines : List String) :
    let ended := s.parseLines h.recording source lines
    (∀ number state line expected,
      ended.2 = .error (.fault (.unexpectedLine number state line expected)) →
      ∃ reached, StopsAt h.recording s source lines number line reached ∧
        ended.1.state.2 = reached.state.2 ∧
        reached.parser.state = state ∧
        (∀ row ∈ standard.rows state,
          (reached.parser.count (some line)).partsOf row.matcher line = .ok none) ∧
        expected = (standard.rows state).map (·.matcher)) ∧
    (∀ number indent line,
      ended.2 = .error (.fault (.dedent number indent line)) →
      ∃ reached, StopsAt h.recording s source lines number line reached ∧
        ended.1.state.2 = reached.state.2 ∧
        reached.parser.state ∈ [State.backgroundMultiline, .scenarioMultiline, .outlineMultiline] ∧
        reached.parser.indent = some indent ∧ width line < indent ∧ ¬ Delimits indent line) ∧
    ∀ state expected,
      ended.2 = .error (.fault (.unexpectedEnd state expected)) →
      ∃ reached, s.fed h.recording source lines = (reached, .ok ()) ∧
        ended.1.state.2 = reached.state.2 ∧
        reached.parser.state = state ∧
        state ∈ [State.backgroundMultiline, .scenarioMultiline, .outlineMultiline, .examples] ∧
        expected = (standard.rows state).map (·.matcher) := by
  intro ended
  refine ⟨?_, ?_, ?_⟩
  · intro number state line expected hfault
    obtain ⟨text, reached, hstops, hfaults⟩ := exists_stopsAt_of_lineNumber hfault rfl
    obtain ⟨hline, hstate, hrows, hexpected⟩ := hfaults.of_unexpectedLine
    obtain rfl := Option.some.inj hline
    have hevents : ended.1.state.2 = reached.state.2 := by rw [show ended.1 = _ from hstops.stopped]
    rw [Parser.state_count] at hstate
    exact ⟨reached, hstops, hevents, hstate, hrows, hexpected⟩
  · intro number indent line hfault
    obtain ⟨text, reached, hstops, hfaults⟩ := exists_stopsAt_of_lineNumber hfault rfl
    obtain ⟨hline, hstate, hindent, hnarrow, hcloses⟩ := hfaults.of_dedent
    obtain rfl := Option.some.inj hline
    have hevents : ended.1.state.2 = reached.state.2 := by rw [show ended.1 = _ from hstops.stopped]
    rw [Parser.state_count] at hstate
    rw [Parser.indent_count] at hindent
    exact ⟨reached, hstops, hevents, hstate, hindent, hnarrow, hcloses⟩
  · intro state expected hfault
    obtain ⟨reached, hreached, hfaults, hended⟩ := exists_fed_of_lineNumber hfault rfl
    have hevents : ended.1.state.2 = reached.state.2 := by rw [show ended.1 = _ from hended]
    obtain ⟨hstate, hmem, hexpected⟩ := hfaults.of_unexpectedEnd (parser_of_fed hreached).2
    exact ⟨reached, hreached, hevents, hstate, hmem, hexpected⟩

/-- The three faults of documents, read by a session that has read another one before. -/
theorem located_faults :
    let s : Session (List Event × List Event) := ⟨{ state := .ended, lineNumber := 9 }, ([], []), []⟩
    let unexpected := ["Feature: f", "  Scenario: s", "", "x", "@a"]
    let narrow := ["Feature: f", "  Scenario: s", "Given x", "  \"\"\"", "y", "@a"]
    let unended := ["Feature: f", "  Scenario: s", "Given x", "  \"\"\""]
    (s.parseLines recorder.recording "f" unexpected).2 = .error (.fault (.unexpectedLine 4 .scenario "x"
        [.comment, .step, .tags, .background, .scenario, .outline, .endOfInput])) ∧
      (s.parseLines recorder.recording "f" narrow).2 = .error (.fault (.dedent 5 2 "y")) ∧
      (s.parseLines recorder.recording "f" unended).2 = .error (.fault (.unexpectedEnd .scenarioMultiline
        [.multilineClose, .multilineContent])) ∧
      (∃ reached, StopsAt recorder.recording s "f" unexpected 4 "x" reached) ∧
      (∃ reached, StopsAt recorder.recording s "f" narrow 5 "y" reached ∧ ¬ Delimits 2 "y") ∧
      ∃ reached, s.fed recorder.recording "f" unended = (reached, .ok ()) := by
  intro s unexpected narrow unended
  have hunexpected : (s.parseLines recorder.recording "f" unexpected).2 =
      .error (.fault (.unexpectedLine 4 .scenario "x"
        [.comment, .step, .tags, .background, .scenario, .outline, .endOfInput])) := by rfl
  have hnarrow : (s.parseLines recorder.recording "f" narrow).2 = .error (.fault (.dedent 5 2 "y")) := by
    rfl
  have hunended : (s.parseLines recorder.recording "f" unended).2 =
      .error (.fault (.unexpectedEnd .scenarioMultiline [.multilineClose, .multilineContent])) := by rfl
  refine ⟨hunexpected, hnarrow, hunended, ?_, ?_, ?_⟩
  · obtain ⟨reached, hstops, -⟩ := (locates_faults recorder s "f" unexpected).1 _ _ _ _ hunexpected
    exact ⟨reached, hstops⟩
  · obtain ⟨reached, hstops, -, -, -, -, hcloses⟩ :=
      (locates_faults recorder s "f" narrow).2.1 _ _ _ hnarrow
    exact ⟨reached, hstops, hcloses⟩
  · obtain ⟨reached, hfed, -⟩ := (locates_faults recorder s "f" unended).2.2 _ _ hunended
    exact ⟨reached, hfed⟩

end Session

end Acceptance
