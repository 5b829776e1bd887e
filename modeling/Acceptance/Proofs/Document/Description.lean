import Mathlib.Data.List.DropRight
import Acceptance.Proofs.Document.Opening
import Acceptance.Proofs.Document.Remarks
import Acceptance.Proofs.Document.Trimming

/-!
# Descriptions

A description stands behind the header of its feature: it goes from the first line of text to the last one
before whatever ends it (`Description.Cut`), and its lines are trimmed (`Description.line?`). A parser collects
it line by line (`Description.collect`): nothing is open before the first line of text, and from there on every
line but a comment adds to what is open. Behind a description nothing is reported that belongs to one
(`Parser.keepsDescription_of_rest`).
-/

set_option autoImplicit false

namespace Acceptance

open Acceptance.Grammar

namespace Description

/-! ## Lines of a description -/

/-- The lines among which a description stands, given those behind the header of the feature: all before the
first one that ends a description. -/
def area (lines : List String) : List String :=
  lines.takeWhile fun line => !(LineClass.ofLine line).endsDescription

/-- Whether a line is a comment or blank. -/
def isRemark (line : String) : Bool :=
  (LineClass.ofLine line).isRemark

/-- What a line adds to a description that has begun: a comment nothing, and a blank line an empty one. -/
def line? (line : String) : Option String :=
  match LineClass.ofLine line with
  | .comment => none
  | .blank => some ""
  | _ => some (Text.trimmed line)

/-- Lines cut into the remarks before the first line of text, what goes from there to the last line of text,
and the remarks behind it. -/
structure Cut (lines leading body trailing : List String) : Prop where
  eq : lines = leading ++ body ++ trailing
  leading : ∀ line ∈ leading, isRemark line = true
  trailing : ∀ line ∈ trailing, isRemark line = true
  first : body.head?.any isRemark = false
  last : body.getLast?.any isRemark = false

variable {lines leading body trailing : List String} {line : String}

/-- Any lines can be cut into leading remarks, a body that begins and ends with text, and trailing remarks. -/
theorem exists_cut (lines : List String) : ∃ leading body trailing, Cut lines leading body trailing := by
  refine ⟨lines.takeWhile isRemark, (lines.dropWhile isRemark).rdropWhile isRemark,
    (lines.dropWhile isRemark).rtakeWhile isRemark, ?_, ?_, ?_, ?_, ?_⟩
  · rw [List.append_assoc, List.rdropWhile_append_rtakeWhile, List.takeWhile_append_dropWhile]
  · exact fun _ => List.mem_takeWhile_imp
  · exact fun _ => List.mem_rtakeWhile_imp
  · obtain ⟨behind, hbehind⟩ := List.rdropWhile_prefix isRemark (lines.dropWhile isRemark)
    have hhead := List.head?_dropWhile_not isRemark lines
    rw [← hbehind, List.head?_append] at hhead
    cases hfirst : ((lines.dropWhile isRemark).rdropWhile isRemark).head? with
    | none => rfl
    | some line => simpa [hfirst] using hhead
  · by_cases hnil : (lines.dropWhile isRemark).rdropWhile isRemark = []
    · rw [hnil]
      rfl
    · rw [List.getLast?_eq_some_getLast hnil]
      simpa using List.rdropWhile_last_not isRemark _ hnil

/-- The body of a cut is empty just where there is no text at all. -/
theorem Cut.body_eq_nil_iff (h : Cut lines leading body trailing) :
    body = [] ↔ ∀ line ∈ lines, isRemark line = true := by
  rw [h.eq, List.append_assoc]
  constructor
  · rintro rfl
    exact List.forall_mem_append.mpr ⟨h.leading, h.trailing⟩
  · intro hremarks
    cases body with
    | nil => rfl
    | cons line more =>
      have hfirst := h.first
      rw [List.head?_cons, Option.any_some, hremarks line (by simp)] at hfirst
      cases hfirst

/-! ## Collecting a description -/

/-- The lines of a description that are open after one more line, if one has begun. -/
def collect (opened : Option (List String)) (line : String) : Option (List String) :=
  match LineClass.ofLine line with
  | .comment => opened
  | .blank => opened.map (· ++ [""])
  | _ => some (opened.getD [] ++ [Text.trimmed line])

/-- The remarks are the comments and the blank lines. -/
theorem isRemark_iff : isRemark line = true ↔
    LineClass.ofLine line = .comment ∨ LineClass.ofLine line = .blank :=
  LineClass.isRemark_iff

/-- Text that is no remark stands in a description without the blanks around it. -/
theorem line?_of_text (h : isRemark line = false) : line? line = some (Text.trimmed line) := by
  unfold isRemark at h
  unfold line?
  split <;> simp_all [LineClass.isRemark]

/-- Text that is no remark is collected, and begins a description where none is open. -/
theorem collect_of_text (h : isRemark line = false) (opened : Option (List String)) :
    collect opened line = some (opened.getD [] ++ [Text.trimmed line]) := by
  unfold isRemark at h
  unfold collect
  split <;> simp_all [LineClass.isRemark]

/-- Remarks do not begin a description. -/
theorem foldl_collect_of_remarks (h : ∀ line ∈ lines, isRemark line = true) :
    lines.foldl collect none = none := by
  induction lines with
  | nil => rfl
  | cons line lines ih =>
    obtain ⟨hline, hrest⟩ := List.forall_mem_cons.mp h
    have hnone : collect none line = none := by
      unfold collect
      rcases isRemark_iff.mp hline with hclass | hclass
      · rw [hclass]
      · rw [hclass]
        rfl
    rw [List.foldl_cons, hnone, ih hrest]

/-- What a description has that has begun is what the lines add to it. -/
theorem foldl_collect (opened lines : List String) :
    lines.foldl collect (some opened) = some (opened ++ lines.filterMap line?) := by
  induction lines generalizing opened with
  | nil => rw [List.filterMap_nil, List.append_nil]; rfl
  | cons line lines ih =>
    have hline : collect (some opened) line = some (opened ++ (line? line).toList) := by
      unfold collect line?
      split <;> simp
    rw [List.foldl_cons, hline, ih, List.append_assoc, List.filterMap_cons]
    cases line? line <;> rfl

/-- What remarks add to a description is empty. -/
theorem filterMap_of_remarks (h : ∀ line ∈ lines, isRemark line = true) :
    ∃ k, lines.filterMap line? = List.replicate k "" := by
  refine ⟨(lines.filterMap line?).length, List.eq_replicate_iff.mpr ⟨rfl, fun text htext => ?_⟩⟩
  obtain ⟨line, hline, htext⟩ := List.mem_filterMap.mp htext
  unfold line? at htext
  rcases isRemark_iff.mp (h line hline) with hclass | hclass <;> rw [hclass] at htext <;> cases htext
  rfl

/-- **What is collected** is a description, and an empty line for each blank one behind it. -/
theorem Cut.foldl_collect (h : Cut lines leading body trailing) :
    ∃ k, lines.foldl collect none =
      if body.isEmpty then none else some (body.filterMap line? ++ List.replicate k "") := by
  rw [h.eq, List.foldl_append, List.foldl_append, foldl_collect_of_remarks h.leading]
  cases body with
  | nil => exact ⟨0, foldl_collect_of_remarks h.trailing⟩
  | cons line more =>
    have hline : isRemark line = false := h.first
    obtain ⟨k, hk⟩ := filterMap_of_remarks h.trailing
    refine ⟨k, ?_⟩
    rw [List.foldl_cons, collect_of_text hline, Description.foldl_collect, Description.foldl_collect, hk,
      List.filterMap_cons_some (line?_of_text hline)]
    rfl

/-! ## The text of a description -/

/-- The description that lines give, from the first line of text to the last one. -/
def ofBody (body : List String) : Option String :=
  if body.isEmpty then none else some ("\n".intercalate (body.filterMap line?))

/-- Text that is no remark has more than blanks in it. -/
theorem trim_ne_nil_of_text (h : isRemark line = false) : Text.trim line.toList ≠ [] := by
  rw [Ne, Text.trim_eq_nil_iff]
  intro hblank
  rw [isRemark_iff.mpr (.inr (LineClass.ofLine_eq_blank.mpr hblank))] at h
  cases h

/-- The description of a body consists of the texts of its lines, one to a line. -/
theorem toList_of_ofBody {text : String} (h : ofBody body = some text) :
    text.toList = ['\n'].intercalate ((body.filterMap line?).map String.toList) := by
  unfold ofBody at h
  split at h
  · cases h
  · cases h
    exact String.toList_intercalate

/-- A description begins with its first line, trimmed. -/
theorem Cut.exists_first (h : Cut lines leading body trailing) {text : String} (htext : ofBody body = some text) :
    ∃ line behind, isRemark line = false ∧ text.toList = Text.trim line.toList ++ behind := by
  have hchars := toList_of_ofBody htext
  cases body with
  | nil => cases htext
  | cons line more =>
    have hline : isRemark line = false := h.first
    rw [List.filterMap_cons_some (line?_of_text hline), List.map_cons, Text.trimmed,
      String.toList_ofList] at hchars
    exact ⟨line, _, hline, hchars.trans (Text.intercalate_append_cons ['\n'] _ [] _)⟩

/-- A description ends with its last line, trimmed. -/
theorem Cut.exists_last (h : Cut lines leading body trailing) {text : String} (htext : ofBody body = some text) :
    ∃ ahead line, isRemark line = false ∧ text.toList = ahead ++ Text.trim line.toList := by
  have hchars := toList_of_ofBody htext
  cases body using List.reverseRecOn with
  | nil => cases htext
  | append_singleton before line =>
    have hline : isRemark line = false := by simpa using h.last
    rw [List.filterMap_append, List.filterMap_cons_some (line?_of_text hline), List.filterMap_nil,
      List.map_append, List.map_cons, List.map_nil, Text.trimmed, String.toList_ofList,
      Text.intercalate_append_cons, List.flatMap_nil, List.append_nil] at hchars
    exact ⟨_, line, hline, hchars⟩

/-- **A description** is not empty, and neither begins nor ends with a blank or with the end of a line. -/
theorem Cut.trimmed_of_ofBody (h : Cut lines leading body trailing) {text : String}
    (htext : ofBody body = some text) : text ≠ "" ∧ Text.trimmed text = text := by
  obtain ⟨first, behind, hfirst, hbegins⟩ := h.exists_first htext
  obtain ⟨ahead, last, hlast, hends⟩ := h.exists_last htext
  constructor
  · rintro rfl
    exact trim_ne_nil_of_text hfirst (List.append_eq_nil_iff.mp hbegins.symm).1
  · have htrim : Text.trim text.toList = text.toList := by
      apply Text.trim_of_ends
      · rw [hbegins, List.head?_append_of_ne_nil _ (trim_ne_nil_of_text hfirst)]
        exact (Text.ends_of_trim _).1
      · rw [hends, List.getLast?_append_of_ne_nil _ (trim_ne_nil_of_text hlast)]
        exact (Text.ends_of_trim _).2
    rw [Text.trimmed, htrim, String.ofList_toList]

/-- What the lines behind the header of a feature say about its description. -/
structure Describes (lines : List String) (description : Option String) : Prop where
  /-- There is none just if there is no line of text. -/
  eq_none_iff : description = none ↔ ∀ line ∈ area lines, isRemark line = true
  exists_cut : ∃ leading body trailing, Cut (area lines) leading body trailing
  eq_of_cut : ∀ leading body trailing, Cut (area lines) leading body trailing → description = ofBody body
  trimmed : ∀ text, description = some text → text ≠ "" ∧ Text.trimmed text = text

/-- A description that is made of the body of every cut is the one that the lines describe. -/
theorem describes_of_cut {description : Option String}
    (h : ∀ leading body trailing, Cut (area lines) leading body trailing → description = ofBody body) :
    Describes lines description := by
  obtain ⟨leading, body, trailing, hcut⟩ := Description.exists_cut (area lines)
  have hbody : description = ofBody body := h _ _ _ hcut
  refine ⟨?_, ⟨_, _, _, hcut⟩, h, fun text htext => hcut.trimmed_of_ofBody (hbody.symm.trans htext)⟩
  rw [hbody, ← hcut.body_eq_nil_iff, ofBody]
  cases body <;> simp

/-! ## Collecting and reporting -/

/-- The state in which a parser collects a description. -/
def state (opened : Option (List String)) : State :=
  if opened.isSome then .description else .feature

/-- What is reported first where the lines end among which a description stands. -/
def closing (opened : Option (List String)) : List Event :=
  if opened.isSome then [.finishDescription] else []

end Description

/-! ## What comes behind a description -/

namespace Grammar

/-- Whether an action leaves the description of a feature as it is. -/
def Action.keepsDescription : Action → Bool
  | startFeature | finishDescription => false
  | _ => true

/-- Whether a state is one behind the description of a feature. -/
def State.pastDescription : State → Bool
  | start | feature | description => false
  | _ => true

end Grammar

/-- Whether an event leaves the description of a feature as it is. -/
def Event.keepsDescription : Event → Bool
  | startFeature _ | finishDescription => false
  | _ => true

namespace Grammar

/-- Whether the description is kept is told by the action, whatever event it makes. -/
theorem Action.keepsDescription_event {parts : List String} {a : Action} {event : Event}
    (h : a.event parts = .ok event) : event.keepsDescription = a.keepsDescription := by
  cases a with
  | startStep =>
    obtain ⟨keyword, text, rfl⟩ := Action.eq_startStep_of_event h
    rfl
  | _ => cases h; rfl

/-- Actions that keep the description report events that keep it. -/
theorem Reports.keepsDescription {parts : List String} {actions : List Action} {events : List Event}
    (h : Reports parts actions events) (hkeep : ∀ a ∈ actions, a.keepsDescription = true) :
    ∀ event ∈ events, event.keepsDescription = true := by
  intro event hevent
  obtain ⟨a, ha, haction⟩ := h.exists_action hevent
  rw [Action.keepsDescription_event haction, hkeep a ha]

/-- **No way leads back** to a description. -/
theorem row_of_pastDescription : ∀ s : State, s.pastDescription = true → ∀ row ∈ standard.rows s,
    row.next.pastDescription = true ∧ ∀ a ∈ row.actions, a.keepsDescription = true := by
  intro s
  cases s <;> decide

/-- Where a feature has no description, nothing ends it. -/
theorem row_of_feature : ∀ row ∈ standard.rows .feature, row.next.pastDescription = true →
    ∀ a ∈ row.actions, a.keepsDescription = true := by
  decide

/-- What leads behind a description ends it first. -/
theorem row_of_description : ∀ row ∈ standard.rows .description, row.next.pastDescription = true →
    row.actions.head? = some .finishDescription ∧ ∀ a ∈ row.actions.tail, a.keepsDescription = true := by
  decide

/-- A line that ends descriptions leads behind the place of a description, where one has begun or not. -/
theorem find?_of_endsDescription : ∀ (begun : Bool) (c : LineClass), c.endsDescription = true →
    ∃ row ∈ standard.rows (if begun then .description else .feature),
      (standard.rows (if begun then .description else .feature)).find? (fun row => row.matcher.takes c) =
          some row ∧ row.next.pastDescription = true := by
  intro begun c
  cases begun <;> cases c <;> decide

/-- The input may end before and within a description, and the description is over then. -/
theorem find?_of_endOfInput : ∀ begun : Bool,
    ∃ row ∈ standard.rows (if begun then .description else .feature),
      (standard.rows (if begun then .description else .feature)).find? (fun row => row.matcher = .endOfInput) =
          some row ∧ row.next.pastDescription = true := by
  decide

/-- A line of text begins a description, or goes on with it. -/
theorem find?_of_text : ∀ (begun : Bool) (c : LineClass), c.isRemark = false → c.endsDescription = false →
    (standard.rows (if begun then .description else .feature)).find? (fun row => row.matcher.takes c) =
      some ⟨.text, if begun then [.data] else [.startDescription, .data], .description⟩ := by
  intro begun c
  cases begun <;> cases c <;> decide

/-- What is reported behind a description. -/
theorem tracks_keepsDescription :
    Tracks (fun (_ : Unit) events _ => ∀ event ∈ events, event.keepsDescription = true)
      fun _ s => s.pastDescription = true where
  nil _ := List.forall_mem_nil _
  append hfirst hsecond := List.forall_mem_append.mpr ⟨hfirst, hsecond⟩
  row := by
    intro _ s row parts events hs hrow hevents
    obtain ⟨hnext, hkeep⟩ := row_of_pastDescription s hs row hrow
    exact ⟨(), hevents.keepsDescription hkeep, hnext⟩
  blank line hs _ := ⟨(), List.forall_mem_singleton.mpr rfl, hs⟩

end Grammar

namespace Parser

variable {p : Parser} {line : String} {opened : Option (List String)}

/-- **Behind a description** the rest of a document leaves it as it is. -/
theorem keepsDescription_of_rest (h : p.state.pastDescription = true) (lines : List String) :
    ∀ event ∈ ((p.reportAll lines).andThen fun q => q.report none).events,
      event.keepsDescription = true := by
  have htracks : ∃ _ : Unit, (∀ event ∈ ((p.reportAll lines).andThen fun q => q.report none).events,
      event.keepsDescription = true) ∧
        ((p.reportAll lines).andThen fun q => q.report none).parser.state.pastDescription = true :=
    tracks_keepsDescription.andThen (a := ()) (tracks_keepsDescription.reportAll (a := ()) h lines)
      fun _ _ hpast => tracks_keepsDescription.report (a := ()) hpast none
  obtain ⟨-, hevents, -⟩ := htracks
  exact hevents

/-- Where descriptions stand, no multiline block is open. -/
theorem afterBlock?_eq_none (hstate : p.state = Description.state opened) : p.state.afterBlock? = none := by
  rw [hstate]
  cases opened <;> rfl

/-- The end of input and a line that ends a description take a parser behind it. -/
theorem exists_fires_of_ending (hstate : p.state = Description.state opened) (line : Option String)
    (hline : ∀ text, line = some text →
      '\n' ∉ text.toList ∧ (LineClass.ofLine text).endsDescription = true) :
    ∃ row parts, (p.count line).read line = .fires row parts ∧
      row ∈ standard.rows (Description.state opened) ∧ row.next.pastDescription = true := by
  cases line with
  | none =>
    obtain ⟨row, hrow, hfind, hpast⟩ := find?_of_endOfInput opened.isSome
    refine ⟨row, [], ?_, hrow, hpast⟩
    rw [read, firstRow_none, state_count, hstate, Description.state, hfind]
    rfl
  | some text =>
    obtain ⟨hfeed, hends⟩ := hline text rfl
    obtain ⟨row, hrow, hfind, hpast⟩ := find?_of_endsDescription opened.isSome _ hends
    obtain ⟨parts, hfirst⟩ := firstRow_eq (p := p.count (some text))
      (p.state.matcher_ne_of_afterBlock? (afterBlock?_eq_none hstate)) hfeed
    refine ⟨row, parts, ?_, hrow, hpast⟩
    rw [hstate, Description.state, hfind] at hfirst
    rw [read, state_count, hstate, Description.state, hfirst]
    rfl

/-- **The end of a description** is reported first, if it has begun, and all else leaves it as it is. -/
theorem exists_report_of_ending (hstate : p.state = Description.state opened) (line : Option String)
    (hline : ∀ text, line = some text →
      '\n' ∉ text.toList ∧ (LineClass.ofLine text).endsDescription = true) :
    ∃ rest, (p.report line).events = Description.closing opened ++ rest ∧
      (∀ event ∈ rest, event.keepsDescription = true) ∧
      (p.report line).parser.state.pastDescription = true := by
  obtain ⟨row, parts, hread, hrow, hpast⟩ := exists_fires_of_ending hstate line hline
  obtain ⟨events, hevents, hreport⟩ := report_of_fires hread
  rw [hreport]
  cases opened with
  | none => exact ⟨events, rfl, hevents.keepsDescription (row_of_feature row hrow hpast), hpast⟩
  | some opened =>
    obtain ⟨hhead, htail⟩ := row_of_description row hrow hpast
    obtain ⟨actions, hactions⟩ := List.head?_eq_some_iff.mp hhead
    rw [hactions] at hevents htail
    cases hevents with
    | cons hevent hrest =>
      cases hevent
      exact ⟨_, rfl, Reports.keepsDescription hrest htail, hpast⟩

/-- A line that is read as text has the line without the blanks around it as its only part. -/
theorem parts_of_text {parts : List String} (h : p.partsOf .text line = .ok (some parts)) :
    parts = [Text.trimmed line] := by
  simp only [partsOf, Matcher.parts?, Matcher.pattern?, textParts] at h
  split at h
  · cases h
    simp
  · cases h

/-- **A line of text** is reported as such, behind the beginning of the description where it has not begun. -/
theorem report_text (hstate : p.state = Description.state opened) (hline : '\n' ∉ line.toList)
    (htext : Description.isRemark line = false) (hends : (LineClass.ofLine line).endsDescription = false) :
    (p.report (some line)).events =
        (if opened.isSome then [.data (Text.trimmed line)] else [.startDescription, .data (Text.trimmed line)]) ∧
      (p.report (some line)).fault = none ∧ (p.report (some line)).parser.state = .description := by
  obtain ⟨parts, hfirst⟩ := firstRow_eq (p := p.count (some line))
    (p.state.matcher_ne_of_afterBlock? (afterBlock?_eq_none hstate)) hline
  have hread : (p.count (some line)).read (some line) = .fires
      ⟨.text, if opened.isSome then [.data] else [.startDescription, .data], .description⟩ parts := by
    rw [hstate, Description.state, find?_of_text _ _ htext hends] at hfirst
    rw [read, state_count, hstate, Description.state, hfirst]
    rfl
  obtain rfl := parts_of_text (mem_and_accepts_of_read hread).2
  obtain ⟨events, hevents, hreport⟩ := report_of_fires hread
  rw [hreport]
  refine ⟨?_, rfl, rfl⟩
  cases opened with
  | none =>
    obtain _ | ⟨hstart, _ | ⟨hdata, ⟨⟩⟩⟩ := hevents
    cases hstart
    cases hdata
    rfl
  | some opened =>
    obtain _ | ⟨hdata, ⟨⟩⟩ := hevents
    cases hdata
    rfl

end Parser

end Acceptance
