import Acceptance.Proofs.Document.Remarks
import Acceptance.Proofs.Load.Blocks
import Acceptance.Proofs.Load.Parts

/-!
# Comments and blank lines in documents that are loaded

A draft has lines open in a description or in a multiline block only, and elsewhere it makes nothing of a
comment or a blank line (`Loader.exists_build_remarks`). In a description a blank line adds an empty one to
the open lines, and those at the end are dropped again. So comments and blank lines may be put anywhere
outside of multiline blocks, blank ones into a description at its end only, and the suite is the same, or the
fault but for the number of its line (`Loader.loadText_of_remarks`).
-/

set_option autoImplicit false

namespace Acceptance

open Acceptance.Grammar

variable {W : Type}

/-! ## Faults without lines -/

/-- The same cause, with the number of its line, if it has one, given by a function. -/
def LoadFault.renumber (f : Nat → Nat) : LoadFault → LoadFault
  | parse fault => parse (fault.renumber f)
  | fault => fault

namespace Draft

variable {config : NamingConfig} {r : Registry W} {f : Nat → Nat}

/-- What a draft refuses it refuses without the number of a line. -/
theorem Refuses.renumber {d : Draft W} {event : Event} {fault : LoadFault} (h : d.Refuses r event fault) :
    fault.renumber f = fault := by
  cases h <;> rfl

/-- A refusal of the builder has no line number to change. -/
theorem renumber_of_answerAll {d : Draft W} {events : List Event} {fault : LoadFault}
    (h : (builder config r).answerAll d events = .error fault) : fault.renumber f = fault := by
  induction events generalizing d with
  | nil => cases h
  | cons event events ih =>
    cases hanswer : (builder config r).answer d event with
    | error reason =>
      rw [Handler.answerAll_cons_of_error hanswer] at h
      rw [answer_builder_eq] at hanswer
      cases h
      exact (refuses_of_handle hanswer).renumber
    | ok next =>
      rw [Handler.answerAll_cons_of_ok hanswer] at h
      exact ih h

/-! ## Open lines -/

/-- Lines are open in a description or in a multiline block only. -/
theorem Fills.lines_eq_none {m : Stage} {events : List Event} {d : Draft W} (h : Fills m events d)
    (hdescription : m ≠ .description) (hmultiline : ∀ k, m ≠ .multiline k) : d.lines = none := by
  cases h with
  | resting hstep hrests hbuilds =>
    cases m with
    | description => exact absurd rfl hdescription
    | examplesTable | examplesRead =>
      obtain ⟨t, ht⟩ := hrests
      exact congrArg Prod.fst ht
    | step | multiline | table | attached => exact hrests.elim
    | _ => exact congrArg Prod.fst hrests
  | attaching closed s hevents hinner hstep hattaches hbuilds =>
    cases m with
    | step k => exact congrArg Prod.fst hattaches.1
    | multiline k => exact absurd rfl (hmultiline k)
    | table k =>
      obtain ⟨t, ht, -⟩ := hattaches
      exact congrArg Prod.fst ht
    | attached k => exact congrArg Prod.fst hattaches.1
    | _ => exact hattaches.elim

/-- The draft with empty lines behind those that are open. -/
def padded (d : Draft W) (k : Nat) : Draft W :=
  { d with lines := d.lines.map (· ++ List.replicate k "") }

/-- No empty lines change nothing. -/
theorem padded_zero (d : Draft W) : d.padded 0 = d := by
  unfold padded
  simp

/-- Where no lines are open, none are added. -/
theorem padded_of_none {d : Draft W} (h : d.lines = none) (k : Nat) : d.padded k = d := by
  obtain ⟨⟩ := d
  cases h
  rfl

/-- Empty lines are added up. -/
theorem padded_padded (d : Draft W) (j k : Nat) : (d.padded j).padded k = d.padded (j + k) := by
  unfold padded
  dsimp only
  rw [Option.map_map, List.replicate_add]
  congr 2
  funext lines
  exact List.append_assoc _ _ _

/-- Empty lines at the end are dropped, however many they are. -/
theorem dropTrailingEmpty_append_replicate (lines : List String) (k : Nat) :
    dropTrailingEmpty (lines ++ List.replicate k "") = dropTrailingEmpty lines := by
  induction k with
  | zero => simp
  | succ k ih =>
    rw [List.replicate_succ', ← List.append_assoc]
    unfold dropTrailingEmpty at ih ⊢
    rw [List.reverse_append, List.reverse_singleton, List.singleton_append,
      List.dropWhile_cons_of_pos (by decide), ih]

/-- **Empty lines at the end** do not belong to a description. -/
theorem closeDescription_padded (d : Draft W) (k : Nat) :
    (d.padded k).closeDescription = d.closeDescription := by
  have hlines : dropTrailingEmpty ((d.padded k).lines.getD []) = dropTrailingEmpty (d.lines.getD []) := by
    unfold padded
    cases d.lines with
    | none => rfl
    | some lines => exact dropTrailingEmpty_append_replicate lines k
  unfold closeDescription
  rw [hlines]
  rfl

end Draft

namespace Loader

variable {l : Loader W} {d : Draft W} {p q : Parser} {f : Nat → Nat} {k : Nat} {lines : List String}

/-! ## Numbers of lines -/

/-- Transcripts that differ in line numbers build the same suite, or fail alike but for the number. -/
theorem build_renumbered {t t' : Transcript} (h : t.Renumbered f t') :
    (l.build d t').map (·.2.suite) = ((l.build d t).map (·.2.suite)).mapError (LoadFault.renumber f) := by
  obtain ⟨hevents, hfault, -⟩ := h
  cases hanswers : (Draft.builder l.config l.registry).answerAll d t.events with
  | error fault =>
    rw [build_of_refusal hanswers, build_of_refusal (hevents ▸ hanswers)]
    exact congrArg Except.error (Draft.renumber_of_answerAll hanswers).symm
  | ok built =>
    cases ht : t.fault with
    | some fault =>
      rw [ht, Option.map_some] at hfault
      rw [build_of_fault hanswers ht, build_of_fault (hevents ▸ hanswers) hfault]
      rfl
    | none =>
      rw [ht, Option.map_none] at hfault
      rw [build_of_ok hanswers ht, build_of_ok (hevents ▸ hanswers) hfault]
      rfl

/-- **From the same place** the rest of a document gives the same suite, or the same fault but for the number
of its line. -/
theorem loadRest_of_samePlace (h : p.SamePlace q) (hnumber : q.lineNumber = p.lineNumber + k)
    (hf : ∀ number, p.lineNumber < number → f number = number + k) (lines : List String) :
    l.loadRest q d lines = (l.loadRest p d lines).mapError (LoadFault.renumber f) :=
  build_renumbered (h.reportRest hnumber hf lines)

/-- A fault of the first lines has the number of one of them. -/
theorem renumber_of_build {fault : LoadFault} (h : l.build d (p.reportAll lines) = .error fault)
    (hf : ∀ number, number ≤ p.lineNumber + lines.length → f number = number) :
    fault.renumber f = fault := by
  cases hanswers : (Draft.builder l.config l.registry).answerAll d (p.reportAll lines).events with
  | error reason =>
    rw [build_of_refusal hanswers] at h
    cases h
    exact Draft.renumber_of_answerAll hanswers
  | ok built =>
    cases hfault : (p.reportAll lines).fault with
    | none =>
      rw [build_of_ok hanswers hfault] at h
      cases h
    | some other =>
      rw [build_of_fault hanswers hfault] at h
      cases h
      have hself : other.renumber f = other.renumber id := ParseFault.renumber_congr fun number hnumber =>
        hf number (Parser.lineNumber_of_reportAll hfault number hnumber).2
      exact congrArg LoadFault.parse (hself.trans other.renumber_id)

/-! ## Remarks -/

/-- A transcript of one event builds what the draft makes of that. -/
theorem build_of_events {t : Transcript} {event : Event} {built : Draft W} (hevents : t.events = [event])
    (hfault : t.fault = none) (hhandle : (d.handle l.config l.registry event).result = .ok built) :
    l.build d t = .ok (t.parser, built) := by
  refine build_of_ok ?_ hfault
  rw [hevents, Handler.answerAll_cons_of_ok (Draft.answer_builder.mpr hhandle), Handler.answerAll_nil]

/-- **A comment** changes nothing in a draft, and a blank line pads the lines that are open. -/
theorem exists_build_remark {line : String} (houtside : p.state.afterBlock? = none)
    (hended : p.state ≠ .ended) (hline : '\n' ∉ line.toList)
    (hclass : LineClass.ofLine line = .comment ∨ LineClass.ofLine line = .blank) :
    ∃ k, p.SamePlace (p.report (some line)).parser ∧ (LineClass.ofLine line = .comment → k = 0) ∧
      ∀ d : Draft W, l.build d (p.report (some line)) = .ok ((p.report (some line)).parser, d.padded k) := by
  rcases hclass with hcomment | hblank
  · obtain ⟨⟨text, hevents⟩, hfault, hplace⟩ := Parser.report_comment houtside hended hcomment
    refine ⟨0, hplace, fun _ => rfl, fun d => build_of_events hevents hfault ?_⟩
    rw [Draft.padded_zero]
    rfl
  · obtain ⟨hevents, hfault, hplace⟩ := Parser.report_blank houtside hline hblank
    refine ⟨1, hplace, fun hcomment => ?_, fun d => build_of_events hevents hfault rfl⟩
    rw [hblank] at hcomment
    cases hcomment

/-- **Comments and blank lines**, by induction on their number. -/
theorem exists_build_remarks {added : List String} (houtside : p.state.afterBlock? = none)
    (hended : p.state ≠ .ended) (hlines : ∀ line ∈ added, '\n' ∉ line.toList)
    (hadded : ∀ line ∈ added, LineClass.ofLine line = .comment ∨ LineClass.ofLine line = .blank) :
    ∃ q k, l.build d (p.reportAll added) = .ok (q, d.padded k) ∧ p.SamePlace q ∧
      q.lineNumber = p.lineNumber + added.length ∧
      ((∀ line ∈ added, LineClass.ofLine line = .comment) → k = 0) := by
  induction added generalizing p d with
  | nil =>
    refine ⟨p, 0, ?_, ⟨rfl, .inl rfl⟩, rfl, fun _ => rfl⟩
    rw [Draft.padded_zero]
    rfl
  | cons line added ih =>
    obtain ⟨hline, hrest⟩ := List.forall_mem_cons.mp hlines
    obtain ⟨hclass, hothers⟩ := List.forall_mem_cons.mp hadded
    obtain ⟨j, hplace, hcomment, hbuild⟩ := exists_build_remark (l := l) houtside hended hline hclass
    have hstate : (p.report (some line)).parser.state = p.state := hplace.1
    have hcount : (p.report (some line)).parser.lineNumber = p.lineNumber + 1 := p.lineNumber_report _
    obtain ⟨q, k, hbuilds, hbehind, hnumber, hcomments⟩ :=
      ih (d := d.padded j) (hstate ▸ houtside) (hstate ▸ hended) hrest hothers
    refine ⟨q, j + k, ?_, hplace.trans hbehind, ?_, fun hall => ?_⟩
    · rw [Parser.reportAll, build_andThen, hbuild]
      exact hbuilds.trans (by rw [Draft.padded_padded])
    · rw [hnumber, hcount, List.length_cons]
      omega
    · obtain ⟨hfirst, hall⟩ := List.forall_mem_cons.mp hall
      rw [hcomment hfirst, hcomments hall]

/-- A description that ends drops the empty lines behind those that are open. -/
theorem build_padded {t : Transcript} (h : ∃ rest, t.events = .finishDescription :: rest) (d : Draft W)
    (k : Nat) : l.build (d.padded k) t = l.build d t := by
  obtain ⟨rest, hevents⟩ := h
  have hclosed (d : Draft W) : (Draft.builder l.config l.registry).answerAll d t.events =
      (Draft.builder l.config l.registry).answerAll d.closeDescription rest := by
    rw [hevents]
    exact Handler.answerAll_cons_of_ok rfl
  unfold build
  rw [hclosed, hclosed, Draft.closeDescription_padded]

/-- **Blank lines at the end of a description** do not belong to it, by induction on what is left of it. -/
theorem loadRest_padded (hstate : p.state = .description) (hlines : ∀ line ∈ lines, '\n' ∉ line.toList)
    (hends : EndsDescription lines) (k : Nat) : l.loadRest p (d.padded k) lines = l.loadRest p d lines := by
  induction lines generalizing p d with
  | nil => rw [loadRest_nil, loadRest_nil, build_padded (Parser.report_none_of_description hstate)]
  | cons line lines ih =>
    obtain ⟨hline, hrest⟩ := List.forall_mem_cons.mp hlines
    rw [loadRest_cons, loadRest_cons]
    by_cases hclass : (LineClass.ofLine line).isRemark = true
    · have houtside : p.state.afterBlock? = none := by rw [hstate]; rfl
      have hended : p.state ≠ .ended := by rw [hstate]; decide
      obtain ⟨j, hplace, -, hbuild⟩ := exists_build_remark (l := l) houtside hended hline
        (LineClass.isRemark_iff.mp hclass)
      rw [hbuild, hbuild, Draft.padded_padded, Nat.add_comm, ← Draft.padded_padded]
      refine ih (hplace.1.trans hstate) hrest fun other hother => hends other ?_
      rw [List.find?_cons_of_neg (by simpa using hclass)]
      exact hother
    · rw [build_padded (Parser.report_endsDescription hstate hline (hends line ?_))]
      exact List.find?_cons_of_pos (by simpa using hclass)

/-! ## Texts -/

/-- Between steps and blocks, and in tables, no lines are open. -/
theorem lines_of_reportAll {before : List String} {source : String}
    (hbuild : l.build { source := source } (({} : Parser).reportAll before) = .ok (p, d))
    (houtside : p.state.afterBlock? = none) (hdescription : p.state ≠ .description) : d.lines = none := by
  obtain ⟨hanswers, -, rfl⟩ := build_eq_ok.mp hbuild
  have hstart : ∃ m, Course .outside [.startParse source] m ∧ m ∈ State.start.stages :=
    ⟨.outside, .cons (.startParse source) (.nil _), by decide⟩
  obtain ⟨m, hcourse, hm⟩ := Stage.tracks.startParse hstart before
  have hfills := Draft.Fills.course hcourse
    ((Handler.answerAll_cons_of_ok rfl).trans hanswers : (Draft.builder l.config l.registry).answerAll {} _ = _)
  have hstages : ∀ s : State, s.afterBlock? = none → s ≠ .description → ∀ m ∈ s.stages,
      m ≠ .description ∧ ∀ k, m ≠ .multiline k := by
    intro s hs hs' m hm
    cases s <;> first | exact absurd hs (by decide) | exact absurd rfl hs' | skip
    all_goals
      simp only [State.stages, List.mem_cons, List.not_mem_nil, or_false] at hm
      rcases hm with rfl | rfl <;> simp
  obtain ⟨hm, hm'⟩ := hstages _ houtside hdescription m hm
  exact hfills.lines_eq_none hm hm'

/-- **Comments and blank lines are transparent.** Lines are put anywhere into a document that is read without
fault up to there, outside of multiline blocks: comments, and blank lines, those into a description only where
nothing but comments and blank lines comes before its end. Then the text gives the same suite as without the
lines, or the same fault, which has the number of its line from where the lines have not been counted. -/
theorem loadText_of_remarks {text text' : String} {before added after : List String}
    (htext : linesOf text = before ++ after) (htext' : linesOf text' = before ++ added ++ after)
    (hadded : (({} : Parser).reportAll before).fault = none →
      let s := (({} : Parser).reportAll before).parser.state
      s.afterBlock? = none ∧ ∀ line ∈ added, LineClass.ofLine line = .comment ∨
        LineClass.ofLine line = .blank ∧ (s = .description → EndsDescription after)) :
    (l.loadText text').result = (l.loadText text).result.mapError
      (LoadFault.renumber fun number => if number ≤ before.length then number else number + added.length) := by
  have hlines : ∀ line ∈ before ++ (added ++ after), '\n' ∉ line.toList := by
    rw [← List.append_assoc, ← htext']
    exact fun _ => notMem_of_mem_linesOf
  rw [result_loadText, result_loadText, htext, htext', List.append_assoc, loadRest_append, loadRest_append]
  cases hbefore : l.build { source := Session.textSource } (({} : Parser).reportAll before) with
  | error fault =>
    refine congrArg Except.error (renumber_of_build hbefore fun number hnumber => if_pos ?_).symm
    exact hnumber.trans_eq (Nat.zero_add _)
  | ok reached =>
    obtain ⟨p, d⟩ := reached
    have hnone := lines_of_reportAll hbefore
    obtain ⟨-, hfault, rfl⟩ := build_eq_ok.mp hbefore
    obtain ⟨hcount, hended⟩ := Parser.reportAll_of_lines hfault
    obtain ⟨houtside, hclasses⟩ := hadded hfault
    obtain ⟨q, k, hbuild, hplace, hnumber, hcomments⟩ := exists_build_remarks (d := d) houtside
      (hended (by decide)) (fun line hline => hlines line (by simp [hline]))
      (fun line hline => (hclasses line hline).imp_right And.left)
    have hpadded : l.loadRest (({} : Parser).reportAll before).parser (d.padded k) after =
        l.loadRest (({} : Parser).reportAll before).parser d after := by
      by_cases hall : ∀ line ∈ added, LineClass.ofLine line = .comment
      · rw [hcomments hall, Draft.padded_zero]
      · by_cases hdescription : (({} : Parser).reportAll before).parser.state = .description
        · obtain ⟨line, hline, hblank⟩ := by simpa using hall
          have hends := ((hclasses line hline).resolve_left hblank).2 hdescription
          exact loadRest_padded hdescription (fun line hline => hlines line (by simp [hline])) hends k
        · rw [Draft.padded_of_none (hnone houtside hdescription)]
    dsimp only [Except.bind]
    rw [loadRest_append, hbuild]
    dsimp only [Except.bind]
    rw [loadRest_of_samePlace hplace hnumber ?_ after, hpadded]
    intro number hbeyond
    rw [hcount] at hbeyond
    exact if_neg (by simpa using hbeyond)

/-- A comment and a blank line at the end of a description, in a text that is loaded and in one with a fault. -/
theorem loadText_of_remarks_description :
    let l : Loader Unit := ⟨.empty, {}⟩
    (∃ suite, (l.loadText "Feature: f\n  intro\nScenario: s\nGiven x\n").result = .ok suite ∧
        (l.loadText "Feature: f\n  intro\n # c\n\nScenario: s\nGiven x\n").result = .ok suite) ∧
      (l.loadText "Feature: f\n  intro\nScenario: s\n\nx").result =
        .error (.parse (.unexpectedLine 5 .scenario "x"
          [.comment, .step, .tags, .background, .scenario, .outline, .endOfInput])) ∧
      (l.loadText "Feature: f\n  intro\n # c\n\nScenario: s\n\nx").result =
        .error (.parse (.unexpectedLine 7 .scenario "x"
          [.comment, .step, .tags, .background, .scenario, .outline, .endOfInput])) := by
  intro l
  have hadded (after : List String) (hafter : EndsDescription after) :
      (({} : Parser).reportAll ["Feature: f", "  intro"]).fault = none →
        let s := (({} : Parser).reportAll ["Feature: f", "  intro"]).parser.state
        s.afterBlock? = none ∧ ∀ line ∈ [" # c", ""], LineClass.ofLine line = .comment ∨
          LineClass.ofLine line = .blank ∧ (s = .description → EndsDescription after) := by
    refine fun _ => ⟨rfl, fun line hline => ?_⟩
    simp only [List.mem_cons, List.not_mem_nil, or_false] at hline
    rcases hline with rfl | rfl
    · exact .inl rfl
    · exact .inr ⟨rfl, fun _ => hafter⟩
  have hends (rest : List String) : EndsDescription ("Scenario: s" :: rest) := by
    intro line hline
    rw [List.find?_cons_of_pos rfl] at hline
    cases hline
    rfl
  constructor
  · have hplain : linesOf "Feature: f\n  intro\nScenario: s\nGiven x\n" =
        ["Feature: f", "  intro"] ++ ["Scenario: s", "Given x"] := by rfl
    have hremarked : linesOf "Feature: f\n  intro\n # c\n\nScenario: s\nGiven x\n" =
        ["Feature: f", "  intro"] ++ [" # c", ""] ++ ["Scenario: s", "Given x"] := by rfl
    obtain ⟨suite, hsuite⟩ : ∃ suite,
        (l.loadText "Feature: f\n  intro\nScenario: s\nGiven x\n").result = .ok suite := ⟨_, rfl⟩
    have hsame := loadText_of_remarks (l := l) hplain hremarked (hadded _ (hends _))
    rw [hsuite] at hsame
    exact ⟨suite, hsuite, hsame⟩
  · have hplain : linesOf "Feature: f\n  intro\nScenario: s\n\nx" =
        ["Feature: f", "  intro"] ++ ["Scenario: s", "", "x"] := by rfl
    have hremarked : linesOf "Feature: f\n  intro\n # c\n\nScenario: s\n\nx" =
        ["Feature: f", "  intro"] ++ [" # c", ""] ++ ["Scenario: s", "", "x"] := by rfl
    have hfault : (l.loadText "Feature: f\n  intro\nScenario: s\n\nx").result =
        .error (.parse (.unexpectedLine 5 .scenario "x"
          [.comment, .step, .tags, .background, .scenario, .outline, .endOfInput])) := by rfl
    have hmoved := loadText_of_remarks (l := l) hplain hremarked (hadded _ (hends _))
    rw [hfault] at hmoved
    exact ⟨hfault, hmoved⟩

end Loader

end Acceptance
