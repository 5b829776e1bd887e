import Acceptance.Step.Callback
import Acceptance.Proofs.Document.Faults
import Acceptance.Proofs.Document.Trimming

/-!
# The keyword and the text of a step

A step line is a keyword in any letter case and a text. The keyword is recognised twice, by the pattern of steps
and when the word is read, and the two agree, so there is no fault of a keyword whatever is read. The step on
one line, with its keyword as it is shown, is a step line again with the same keyword and text
(`Session.normalises_steps`).
-/

set_option autoImplicit false

namespace Acceptance

open Acceptance.Grammar

/-! ## Step lines -/

/-- Whether a line is of the class of steps, and its parts are a word that spells the keyword in some letter
case, and is read as the keyword, and the text. -/
def Parser.ReadsStep (p : Parser) (line : String) (keyword : Keyword) (text : String) : Prop :=
  ∃ word, p.partsOf .step line = .ok (some [word, text]) ∧
    Text.sameLetters word.toList keyword.name.toList = true ∧ Keyword.read word = .ok keyword

namespace Keyword

/-- A line that begins with a keyword has no blanks in front of it. -/
theorem trimStart_append (k : Keyword) {word rest : List Char}
    (h : Text.sameLetters word k.name.toList = true) : Text.trimStart (word ++ rest) = word ++ rest := by
  have hblank := Text.all_not_isBlank_of_sameLetters h k.isBlank_of_mem_name
  cases word with
  | nil =>
    have hname : ∀ k : Keyword, Text.sameLetters [] k.name.toList = false := by
      intro k
      cases k <;> decide
    rw [hname k] at h
    cases h
  | cons c word => exact List.dropWhile_cons_of_neg (by simp [hblank c])

end Keyword

namespace Parser

variable {p : Parser} {line : String} {keyword : Keyword} {parts : List String} {text : String}

/-- The parts of a step are what its pattern captures, without the blanks around them. -/
theorem captured_of_partsOf (h : p.partsOf .step line = .ok (some parts)) :
    ∃ captured, stepParts line.toList = some captured ∧
      parts = captured.map fun part => Text.trimmed (String.ofList part) := by
  unfold partsOf Matcher.parts? Matcher.pattern? at h
  dsimp only at h
  rw [Except.ok.injEq, Option.map_map, Option.map_eq_some_iff] at h
  obtain ⟨captured, hcaptured, hparts⟩ := h
  exact ⟨captured, hcaptured, by rw [← hparts, Function.comp_apply, List.map_map, Function.comp_def]⟩

/-- A word that is written like a keyword has no blanks around it. -/
theorem trimmed_of_sameLetters {word : String}
    (h : Text.sameLetters word.toList keyword.name.toList = true) : Text.trimmed word = word := by
  have hblank := Text.all_not_isBlank_of_sameLetters h keyword.isBlank_of_mem_name
  rw [Text.trimmed, Text.trim_of_all_not hblank, String.ofList_toList]

/-- **Any step line** has a keyword, and a text on one line without blanks around it. -/
theorem exists_readsStep (h : p.partsOf .step line = .ok (some parts)) :
    ∃ word keyword text, parts = [word, text] ∧ Keyword.read word = .ok keyword ∧
      p.ReadsStep line keyword text ∧ '\n' ∉ text.toList ∧ Text.trimmed text = text := by
  obtain ⟨captured, hcaptured, rfl⟩ := captured_of_partsOf h
  obtain ⟨k, word, rest, rfl, hletters, -, -, hline⟩ := stepParts_eq_some hcaptured
  have hword : Text.sameLetters (String.ofList word).toList k.name.toList = true := by
    rwa [String.toList_ofList]
  have hread := Keyword.read_of_sameLetters hletters
  rw [List.map_cons, List.map_cons, List.map_nil, trimmed_of_sameLetters hword] at h ⊢
  rw [trimmed_of_sameLetters hword] at hread
  refine ⟨_, k, _, rfl, hread, ⟨_, h, hword, hread⟩, fun hfeed => ?_, ?_⟩
  · rw [Text.trimmed, String.toList_ofList, String.toList_ofList] at hfeed
    have hmem : '\n' ∈ rest := Text.trim_subset rest hfeed
    simp [onOneLine, hmem] at hline
  · rw [Text.trimmed, Text.trimmed, String.toList_ofList, String.toList_ofList, Text.trim_trim]

/-- **What is written as a step** is a step line: a keyword in any letter case behind any indentation, and a text
behind a space. -/
theorem readsStep_of_written {indent word text : String} (hindent : Text.isBlankText indent = true)
    (hletters : Text.sameLetters word.toList keyword.name.toList = true) (hline : '\n' ∉ text.toList)
    (htrimmed : Text.trimmed text = text) (p : Parser) :
    p.ReadsStep (indent ++ word ++ " " ++ text) keyword text := by
  have hspace : [' '].all Text.isBlank = true := by decide
  have hstart : Text.trimStart (indent ++ word ++ " " ++ text).toList = word.toList ++ ' ' :: text.toList := by
    rw [String.toList_append, String.toList_append, String.toList_append, List.append_assoc, List.append_assoc,
      Text.trimStart_append_of_all hindent]
    exact keyword.trimStart_append hletters
  have hrest : onOneLine (' ' :: text.toList) = true := by
    simpa [onOneLine] using hline
  have hcaptured := stepParts_of_sameLetters hletters hstart
    (Text.isWordChar_of_isBlank (by decide : Text.isBlank ' ' = true)) hrest
  have htext : Text.trimmed (String.ofList (' ' :: text.toList)) = text := by
    rw [Text.trimmed, String.toList_ofList, ← List.singleton_append, Text.trim_append_of_all_left hspace]
    exact htrimmed
  have hparts : p.partsOf .step (indent ++ word ++ " " ++ text) = .ok (some [word, text]) := by
    unfold partsOf Matcher.parts? Matcher.pattern?
    dsimp only
    rw [hcaptured]
    simp only [Option.map_some, List.map_cons, List.map_nil, String.ofList_toList, htext,
      trimmed_of_sameLetters hletters]
  have hread := Keyword.read_of_sameLetters hletters
  rw [String.ofList_toList, trimmed_of_sameLetters hletters] at hread
  exact ⟨word, hparts, hletters, hread⟩

/-- **The step on one line** is a step line with the same keyword and the same text. -/
theorem readsStep_display (hline : '\n' ∉ text.toList) (htrimmed : Text.trimmed text = text) (p : Parser) :
    p.ReadsStep (StepText.display ⟨keyword, text, none, none⟩) keyword text := by
  have hletters : Text.sameLetters keyword.name.toList keyword.name.toList = true := beq_self_eq_true _
  have hindent : Text.isBlankText "" = true := by decide
  have hwritten := readsStep_of_written hindent hletters hline htrimmed p
  rwa [String.empty_append] at hwritten

/-- **Where a row begins a step**, the step has the keyword and the text of the line. -/
theorem startStep_of_read {row : Transition} (h : p.read (some line) = .fires row parts)
    (hstart : .startStep ∈ row.actions) :
    ∃ keyword text, p.ReadsStep line keyword text ∧
      Action.startStep.event parts = .ok (.startStep keyword text) := by
  obtain ⟨hrow, haccepts⟩ := mem_and_accepts_of_read h
  have hparts : p.partsOf .step line = .ok (some parts) := by
    rw [← matcher_of_startStep_mem p.state row hrow hstart]
    exact haccepts
  obtain ⟨word, keyword, text, rfl, hread, hreads, -⟩ := exists_readsStep hparts
  refine ⟨keyword, text, hreads, ?_⟩
  simp [Action.event, hread]

end Parser

/-! ## Sessions -/

/-- Whatever is read of a document, and however the reading ends, the keyword of a step is no fault. -/
theorem Transcript.fault_ne_keyword {source : String} {lines : List String} {unreadable : Option String}
    (word : KeywordFault) : (ofLines source lines unreadable).fault ≠ some (.keyword word) := by
  intro h
  rcases fault_andThen_eq_some h with hstart | h
  · cases hstart
  rcases fault_andThen_eq_some h with hbody | h
  · exact Parser.ungrammatical_of_reportAll hbody
  cases unreadable with
  | some reason => cases h
  | none =>
    rcases fault_andThen_eq_some h with hend | hfinish
    · exact Parser.ungrammatical_of_report hend
    · cases hfinish

namespace Session

variable {σ ε : Type} {h : Handler σ ε}

/-- No line is refused for its keyword: what is read as a step begins with one. -/
theorem feed_ne_keyword (s : Session σ) (line : Option String) (word : KeywordFault) :
    (feed h s line).2 ≠ .error (.fault (.keyword word)) := fun hfault =>
  Parser.ungrammatical_of_report ((feed_follows line s).fault_of_outcome hfault)

/-- No document is refused for a keyword. -/
theorem Parsed.ne_keyword {s : Session σ} {ended : Session σ × ReadOutcome ε} (parsed : Parsed h s ended)
    (word : KeywordFault) : ended.2 ≠ .error (.fault (.keyword word)) := by
  intro hfault
  obtain ⟨source, lines, unreadable, follows⟩ := parsed.follows
  exact Transcript.fault_ne_keyword word (follows.fault_of_outcome hfault)

/-- Where a line begins a step, one step is reported, with the keyword and the text of the line. -/
theorem startStep_of_feed (accepting : h.Accepting) {s : Session (σ × List Event)} {line : String}
    {row : Transition} {parts : List String}
    (hread : (s.parser.count (some line)).read (some line) = .fires row parts)
    (hstart : .startStep ∈ row.actions) :
    ∃ keyword text events, s.parser.ReadsStep line keyword text ∧
      (feed h.recording s (some line)).1.state.2 = s.state.2 ++ events ∧
      ∀ k t, .startStep k t ∈ events ↔ k = keyword ∧ t = text := by
  obtain ⟨keyword, text, hreads, hevent⟩ := Parser.startStep_of_read hread hstart
  obtain ⟨events, hevents, hreport⟩ := Parser.report_of_fires hread
  obtain ⟨-, hstate, -⟩ := (feed_follows (some line) s).recording accepting
  rw [hreport] at hstate
  refine ⟨keyword, text, events, hreads, hstate, fun k t => ⟨fun hmem => ?_, ?_⟩⟩
  · obtain ⟨action, -, haction⟩ := exists_left_of_mem hevents hmem
    -- no other action begins a step
    have hsame : action = .startStep := by
      cases action with
      | startStep => rfl
      | _ => cases haction
    rw [hsame, hevent] at haction
    cases haction
    exact ⟨rfl, rfl⟩
  · rintro ⟨rfl, rfl⟩
    obtain ⟨event, hmem, haction⟩ := exists_right_of_mem hevents hstart
    rw [hevent] at haction
    cases haction
    exact hmem

/-- **Step lines are read stably.** Each of them has a keyword and a text, and the step on one line, with the
keyword as it is shown, is a step line with the same keyword and text. A line that begins a step is reported as
the step with its keyword and its text, and neither a line nor a document ends with the fault that a word is no
keyword. What is written as a step, behind any indentation and with the keyword in any letter case, has just
that keyword and that text. -/
theorem normalises_steps (h : Handler σ ε) :
    (∀ (p : Parser) (line : String) (parts : List String), p.partsOf .step line = .ok (some parts) →
        ∃ word keyword text, parts = [word, text] ∧ Keyword.read word = .ok keyword ∧
          p.ReadsStep line keyword text ∧
          ∀ q : Parser, q.ReadsStep (StepText.display ⟨keyword, text, none, none⟩) keyword text) ∧
      (h.Accepting → ∀ (s : Session (σ × List Event)) (line : String) (row : Transition) (parts : List String),
        (s.parser.count (some line)).read (some line) = .fires row parts → .startStep ∈ row.actions →
        ∃ keyword text events, s.parser.ReadsStep line keyword text ∧
          (feed h.recording s (some line)).1.state.2 = s.state.2 ++ events ∧
          ∀ k t, .startStep k t ∈ events ↔ k = keyword ∧ t = text) ∧
      (∀ (s : Session σ) (line : Option String) (word : KeywordFault),
        (feed h s line).2 ≠ .error (.fault (.keyword word))) ∧
      (∀ (s : Session σ) (ended : Session σ × ReadOutcome ε) (word : KeywordFault), Parsed h s ended →
        ended.2 ≠ .error (.fault (.keyword word))) ∧
      ∀ (p : Parser) (keyword : Keyword) (indent word text : String), Text.isBlankText indent = true →
        Text.sameLetters word.toList keyword.name.toList = true → '\n' ∉ text.toList →
        Text.trimmed text = text → p.ReadsStep (indent ++ word ++ " " ++ text) keyword text := by
  refine ⟨fun p line parts hparts => ?_, fun accepting s line row parts => startStep_of_feed accepting,
    feed_ne_keyword, fun s ended word parsed => parsed.ne_keyword word,
    fun p keyword indent word text hindent hletters hline htrimmed =>
      Parser.readsStep_of_written hindent hletters hline htrimmed p⟩
  obtain ⟨word, keyword, text, hword, hread, hreads, hline, htrimmed⟩ := Parser.exists_readsStep hparts
  exact ⟨word, keyword, text, hword, hread, hreads, fun q => Parser.readsStep_display hline htrimmed q⟩

/-- A step line with a keyword in mixed letters and punctuation right behind it. -/
theorem normalises_steps_punctuation :
    let line := "\tgIVEN, at last "
    let s : Session (List Event × List Event) := ⟨{ state := .scenario }, ([], []), []⟩
    recorder.Accepting ∧
      s.parser.partsOf .step line = .ok (some ["gIVEN", ", at last"]) ∧
      (s.parser.count (some line)).read (some line) =
        .fires ⟨.step, [.startStep], .scenarioStep⟩ ["gIVEN", ", at last"] ∧
      (∀ q : Parser, q.ReadsStep "Given , at last" .given ", at last") ∧
      (∃ keyword text, .startStep keyword text ∈ (feed recorder.recording s (some line)).1.state.2) ∧
      ∀ q : Parser, q.ReadsStep "  gIVEN , at last" .given ", at last" := by
  intro line s
  obtain ⟨hlines, hreports, -, -, hwritten⟩ := normalises_steps recorder
  have accepting : recorder.Accepting := fun _ _ => rfl
  have hparts : s.parser.partsOf .step line = .ok (some ["gIVEN", ", at last"]) := by decide +kernel
  have hread : (s.parser.count (some line)).read (some line) =
      .fires ⟨.step, [.startStep], .scenarioStep⟩ ["gIVEN", ", at last"] := by decide +kernel
  refine ⟨accepting, hparts, hread, ?_, ?_, fun q => ?_⟩
  · obtain ⟨word, keyword, text, hword, hkeyword, -, hdisplay⟩ := hlines _ _ _ hparts
    cases hword
    cases hkeyword
    exact hdisplay
  · obtain ⟨keyword, text, events, -, hevents, hstep⟩ :=
      hreports accepting s line _ _ hread List.mem_cons_self
    refine ⟨keyword, text, ?_⟩
    rw [hevents]
    exact (hstep keyword text).mpr ⟨rfl, rfl⟩
  · exact hwritten q .given "  " "gIVEN" ", at last" (by decide) (by decide) (by decide) (by decide)

end Session

end Acceptance
