import Mathlib.Tactic.IntervalCases
import Acceptance.Proofs.Document.Layout
import Acceptance.Proofs.Load.Remarks

/-!
# Documents in another layout

A draft makes the same of events that differ in layout only, so two layouts of a text build the same draft as
long as they are read line by line (`Loader.build_alike`). One of them may have a blank line more at its end.
So a text in another layout gives a suite just if the text does, and then the same suite
(`Loader.loadText_of_relaid`).
-/

set_option autoImplicit false

namespace Acceptance

open Acceptance.Grammar

variable {W : Type}

namespace Draft

variable {config : NamingConfig} {r : Registry W}

/-- What the layout decides about an event makes no difference to a draft. -/
theorem answerAll_bare (d : Draft W) (events : List Event) :
    (builder config r).answerAll d (events.map Event.bare) = (builder config r).answerAll d events := by
  have hevent (d : Draft W) (event : Event) :
      (builder config r).answer d event.bare = (builder config r).answer d event := by
    cases event <;> rfl
  unfold Handler.answerAll
  rw [List.foldlM_map]
  congr 1
  funext d event
  exact hevent d event

end Draft

namespace Loader

variable {l : Loader W} {d : Draft W} {p q : Parser} {lines : List String} {suite : Suite W}

/-- **Transcripts that are alike** make the same of a draft, or both of them fail. -/
theorem build_alike {t t' : Transcript} (h : t.Alike t') (d : Draft W) :
    (∃ built, l.build d t = .ok (t.parser, built) ∧ l.build d t' = .ok (t'.parser, built)) ∨
      ∃ fault fault', l.build d t = .error fault ∧ l.build d t' = .error fault' := by
  have hsame : (Draft.builder l.config l.registry).answerAll d t'.events =
      (Draft.builder l.config l.registry).answerAll d t.events := by
    rw [← Draft.answerAll_bare, h.events, Draft.answerAll_bare]
  cases hanswers : (Draft.builder l.config l.registry).answerAll d t.events with
  | error fault => exact .inr ⟨fault, fault, build_of_refusal hanswers, build_of_refusal (hsame ▸ hanswers)⟩
  | ok built =>
    rw [hanswers] at hsame
    cases hfault : t.fault with
    | none => exact .inl ⟨built, build_of_ok hanswers hfault, build_of_ok hsame (h.fault.mpr hfault)⟩
    | some fault =>
      have hsome : t'.fault ≠ none := fun hnone => by
        rw [h.fault.mp hnone] at hfault
        cases hfault
      obtain ⟨fault', hfault'⟩ := Option.ne_none_iff_exists'.mp hsome
      exact .inr ⟨_, _, build_of_fault hanswers hfault, build_of_fault hsame hfault'⟩

/-- Documents that end in the same state end alike. -/
theorem loadRest_nil_of_state (hstate : q.state = p.state) (d : Draft W) :
    l.loadRest q d [] = .ok suite ↔ l.loadRest p d [] = .ok suite := by
  rw [loadRest_nil, loadRest_nil]
  rcases build_alike (l := l) (Parser.report_none_of_state hstate) d with ⟨built, hp, hq⟩ |
    ⟨fault, fault', hp, hq⟩
  · rw [hp, hq]
    exact Iff.rfl
  · rw [hp, hq]
    exact iff_of_false nofun nofun

/-! ## Blank lines at the end -/

/-- **An open block** is not ended by blank lines. -/
theorem loadRest_ne_ok {w : Nat} (hinside : p.state.afterBlock? ≠ none) (hindent : p.indent = some w)
    (hfeeds : ∀ line ∈ lines, '\n' ∉ line.toList) (hblank : ∀ line ∈ lines, Text.isBlankText line = true) :
    l.loadRest p d lines ≠ .ok suite := by
  intro hloads
  obtain ⟨t, ht⟩ := Option.ne_none_iff_exists'.mp hinside
  have hrecognises : p.Recognises lines := by
    unfold loadRest at hloads
    cases hbuild : l.build d ((p.reportAll lines).andThen fun q => q.report none) with
    | error fault =>
      rw [hbuild] at hloads
      cases hloads
    | ok built => exact (build_eq_ok.mp hbuild).2.1
  obtain ⟨content, closing, rest, rfl, -, hcloses, -⟩ :=
    ((Parser.recognises_iff hfeeds p).2 t w ht hindent).mp hrecognises
  have hclosing := hblank closing (by simp)
  rw [isBlankText_of_delimiter hcloses.1] at hclosing
  cases hclosing

/-- **A blank line at the end** makes no difference. -/
theorem loadRest_blank {line : String} (hended : p.state ≠ .ended)
    (hinside : p.state.afterBlock? ≠ none → ∃ w, p.indent = some w)
    (hlines : p.state.afterBlock? = none → p.state ≠ .description → d.lines = none)
    (hfeed : '\n' ∉ line.toList) (hblank : Text.isBlankText line = true) :
    l.loadRest p d [line] = .ok suite ↔ l.loadRest p d [] = .ok suite := by
  by_cases houtside : p.state.afterBlock? = none
  · obtain ⟨k, hplace, -, hbuild⟩ := exists_build_remark (l := l) houtside hended hfeed
      (.inr (LineClass.ofLine_eq_blank.mpr hblank))
    have hpadded : l.loadRest p (d.padded k) [] = l.loadRest p d [] := by
      by_cases hdescription : p.state = .description
      · exact loadRest_padded hdescription (List.forall_mem_nil _) nofun k
      · rw [Draft.padded_of_none (hlines houtside hdescription)]
    rw [loadRest_cons, hbuild, ← hpadded]
    exact loadRest_nil_of_state hplace.1 _
  · obtain ⟨w, hindent⟩ := hinside houtside
    refine iff_of_false (loadRest_ne_ok houtside hindent ?_ ?_) (loadRest_ne_ok houtside hindent ?_ ?_)
    · exact List.forall_mem_singleton.mpr hfeed
    · exact List.forall_mem_singleton.mpr hblank
    · exact List.forall_mem_nil _
    · exact List.forall_mem_nil _

/-! ## Texts -/

section Relaid

variable {margin : Nat → List Char} {text text' : String} {k : Nat}

/-- Two layouts of a text give the same if they do so from behind their first lines. -/
theorem loadText_of_rest (h : Relaid margin text text') (hk : k ≤ (linesOf text).length)
    (hk' : k ≤ (linesOf text').length)
    (hrest : (reportedOf text k).fault = none →
      Parser.Moved (margin k) (reportedOf text k).parser (reportedOf text' k).parser →
      ∀ d : Draft W,
        ((reportedOf text k).parser.state.afterBlock? = none →
          (reportedOf text k).parser.state ≠ .description → d.lines = none) →
        (l.loadRest (reportedOf text' k).parser d ((linesOf text').drop k) = .ok suite ↔
          l.loadRest (reportedOf text k).parser d ((linesOf text).drop k) = .ok suite)) :
    (l.loadText text').result = .ok suite ↔ (l.loadText text).result = .ok suite := by
  obtain ⟨halike, hmoved⟩ := h.reported hk hk'
  rw [result_loadText, result_loadText, ← List.take_append_drop k (linesOf text),
    ← List.take_append_drop k (linesOf text'), loadRest_append, loadRest_append]
  rcases build_alike (l := l) halike { source := Session.textSource } with ⟨built, hbuild, hbuild'⟩ |
    ⟨fault, fault', hbuild, hbuild'⟩
  · have hlines := lines_of_reportAll hbuild
    obtain ⟨-, hfault, -⟩ := build_eq_ok.mp hbuild
    unfold reportedOf at hbuild hbuild'
    rw [hbuild, hbuild']
    exact hrest hfault (hmoved hfault) built hlines
  · unfold reportedOf at hbuild hbuild'
    rw [hbuild, hbuild']
    exact iff_of_false nofun nofun

/-- A last line that stands for nothing in the other layout is blank. -/
theorem isBlankText_of_last {piece : List Char} (h : Relaid margin text text')
    (hfault : (reportedOf text k).fault = none)
    (hends : (Text.pieces text)[k]? = some [] ∧ (Text.pieces text')[k]? = some piece ∨
      (Text.pieces text)[k]? = some piece ∧ (Text.pieces text')[k]? = some []) :
    Text.isBlankText (String.ofList piece) = true := by
  rw [Text.isBlankText, String.toList_ofList, ← Text.trim_eq_nil_iff]
  rcases hends with ⟨hpiece, hpiece'⟩ | ⟨hpiece, hpiece'⟩
  · by_cases hblock : BlockOpen text k ∨ BlockOpen text (k + 1)
    · rw [h.within k _ _ hpiece hpiece' hfault hblock, List.append_nil, Text.trim_eq_nil_iff]
      exact h.blank k
    · exact h.outside k _ _ hpiece hpiece' hfault (fun hk => hblock (.inl hk)) fun hk => hblock (.inr hk)
  · by_cases hblock : BlockOpen text k ∨ BlockOpen text (k + 1)
    · have hnothing := h.within k _ _ hpiece hpiece' hfault hblock
      rw [(List.append_eq_nil_iff.mp hnothing.symm).2]
      rfl
    · exact (h.outside k _ _ hpiece hpiece' hfault (fun hk => hblock (.inl hk))
        fun hk => hblock (.inr hk)).symm

/-- Behind all lines but the last there is the last one. -/
theorem drop_eq_singleton {text line : String} (hlength : (linesOf text).length = k + 1)
    (hline : (linesOf text)[k]? = some line) : (linesOf text).drop k = [line] := by
  obtain ⟨hk, rfl⟩ := List.getElem?_eq_some_iff.mp hline
  rw [List.drop_eq_getElem_cons hk, List.drop_eq_nil_of_le (by omega)]

/-- The other layout has a blank line more at its end. -/
theorem loadText_of_line_more (h : Relaid margin text text') (hk : (linesOf text).length = k)
    (hnothing : (Text.pieces text)[k]? = some []) (hlength : (linesOf text').length = k + 1)
    (hlength' : (linesOf text').length = (Text.pieces text').length) :
    (l.loadText text').result = .ok suite ↔ (l.loadText text).result = .ok suite := by
  obtain ⟨line, hline⟩ : ∃ line, (linesOf text')[k]? = some line := ⟨_, List.getElem?_eq_getElem (by omega)⟩
  obtain ⟨piece, hpiece, ⟨hmore, -⟩ | ⟨-, rfl⟩⟩ := Text.exists_piece hline
  · omega
  refine loadText_of_rest (k := k) h (by omega) (by omega) fun hfault hmoved d hlines => ?_
  obtain ⟨hstate, hindents⟩ := hmoved
  have hended := (Parser.reportAll_of_lines hfault).2 (by decide)
  rw [drop_eq_singleton hlength hline, List.drop_eq_nil_of_le (by omega)]
  refine (loadRest_blank ?_ ?_ ?_ (notMem_of_mem_linesOf (List.mem_of_getElem? hline))
    (isBlankText_of_last h hfault (.inl ⟨hnothing, hpiece⟩))).trans (loadRest_nil_of_state hstate d)
  · rwa [hstate]
  · rw [hstate]
    intro hinside
    obtain ⟨w, -, hindent⟩ := hindents hinside
    exact ⟨_, hindent⟩
  · rwa [hstate]

/-- The other layout has no blank line at its end. -/
theorem loadText_of_line_less (h : Relaid margin text text') (hlength : (linesOf text).length = k + 1)
    (hlength' : (linesOf text).length = (Text.pieces text).length) (hk : (linesOf text').length = k)
    (hnothing : (Text.pieces text')[k]? = some []) :
    (l.loadText text').result = .ok suite ↔ (l.loadText text).result = .ok suite := by
  obtain ⟨line, hline⟩ : ∃ line, (linesOf text)[k]? = some line := ⟨_, List.getElem?_eq_getElem (by omega)⟩
  obtain ⟨piece, hpiece, ⟨hmore, -⟩ | ⟨-, rfl⟩⟩ := Text.exists_piece hline
  · omega
  refine loadText_of_rest (k := k) h (by omega) (by omega) fun hfault hmoved d hlines => ?_
  obtain ⟨hstate, hindents⟩ := hmoved
  have hended := (Parser.reportAll_of_lines hfault).2 (by decide)
  rw [drop_eq_singleton hlength hline, List.drop_eq_nil_of_le (by omega)]
  refine (loadRest_nil_of_state hstate d).trans (loadRest_blank hended (fun hinside => ?_) hlines
    (notMem_of_mem_linesOf (List.mem_of_getElem? hline))
    (isBlankText_of_last h hfault (.inr ⟨hpiece, hnothing⟩))).symm
  obtain ⟨w, hindent, -⟩ := hindents hinside
  exact ⟨w, hindent⟩

/-- **Layout makes no difference.** Put a margin before all lines of a multiline block, the same for all of
them, and change the blanks around the lines outside of multiline blocks: the text gives a suite just if it did
before, and then the same suite. -/
theorem loadText_of_relaid (h : Relaid margin text text') (suite : Suite W) :
    (l.loadText text').result = .ok suite ↔ (l.loadText text).result = .ok suite := by
  have hsame (hlength : (linesOf text').length = (linesOf text).length) :
      (l.loadText text').result = .ok suite ↔ (l.loadText text).result = .ok suite := by
    refine loadText_of_rest h (Nat.le_refl _) (by omega) fun _ hmoved d _ => ?_
    rw [List.drop_eq_nil_of_le (by omega), List.drop_eq_nil_of_le (Nat.le_refl _)]
    exact loadRest_nil_of_state hmoved.1 d
  have hpieces := h.length_eq
  rcases Text.length_linesOf text with ⟨hlength, hnothing⟩ | hlength
  · rcases Text.length_linesOf text' with ⟨hlength', -⟩ | hlength'
    · exact hsame (by omega)
    · exact loadText_of_line_more h rfl hnothing (by omega) hlength'
  · rcases Text.length_linesOf text' with ⟨hlength', hnothing'⟩ | hlength'
    · exact loadText_of_line_less h (by omega) hlength rfl hnothing'
    · exact hsame (by omega)

end Relaid

/-- A scenario with a multiline block, and the same with the block behind a margin, with other blanks around
the other lines, and with a blank line at its end. -/
theorem loadText_of_relaid_margin :
    let l : Loader Unit := ⟨.empty, {}⟩
    let text := "Feature: f\nScenario: s\nGiven x\n\"\"\"\na\n\n\"\"\"\n"
    let text' := " Feature: f\r\n\tScenario: s\nGiven x \n  \"\"\"\n  a\n  \n  \"\"\"\n  "
    Relaid (fun _ => [' ', ' ']) text text' ∧
      ∃ suite, (l.loadText text).result = .ok suite ∧ (l.loadText text').result = .ok suite := by
  intro l text text'
  have hpieces : Text.pieces text = ["Feature: f".toList, "Scenario: s".toList, "Given x".toList,
      "\"\"\"".toList, "a".toList, [], "\"\"\"".toList, []] := by unfold text; rfl
  have hpieces' : Text.pieces text' = [" Feature: f\r".toList, "\tScenario: s".toList, "Given x ".toList,
      "  \"\"\"".toList, "  a".toList, "  ".toList, "  \"\"\"".toList, "  ".toList] := by unfold text'; rfl
  have hopen : ∀ k < 9, BlockOpen text k ↔ 4 ≤ k ∧ k < 7 := by
    unfold BlockOpen
    decide
  have hpiece (k : Nat) (piece piece' : List Char) (h : (Text.pieces text)[k]? = some piece)
      (h' : (Text.pieces text')[k]? = some piece') :
      k < 8 ∧ Text.trim piece' = Text.trim piece ∧ (3 ≤ k → piece' = [' ', ' '] ++ piece) := by
    rw [hpieces] at h
    rw [hpieces'] at h'
    have hk : k < 8 := (List.getElem?_eq_some_iff.mp h).1
    interval_cases k
    all_goals
      cases h
      cases h'
      decide
  have hrelaid : Relaid (fun _ => [' ', ' ']) text text' := by
    refine ⟨by rw [hpieces, hpieces']; rfl, fun _ => rfl, fun _ _ => rfl, ?_, ?_⟩
    · intro k piece piece' h h' _ hblock
      obtain ⟨hk, -, hmargin⟩ := hpiece k piece piece' h h'
      rw [hopen k (by omega), hopen (k + 1) (by omega)] at hblock
      exact hmargin (by omega)
    · intro k piece piece' h h' _ _ _
      exact (hpiece k piece piece' h h').2.1
  obtain ⟨suite, hsuite⟩ : ∃ suite, (l.loadText text).result = .ok suite := by
    unfold text
    exact ⟨_, rfl⟩
  exact ⟨hrelaid, suite, hsuite, (loadText_of_relaid hrelaid suite).mpr hsuite⟩

end Loader

end Acceptance
