import Mathlib.Data.List.Forall2
import Acceptance.Command.Program
import Acceptance.Proofs.Load.Identity
import Acceptance.Proofs.Tag.Language

/-!
# Listings of test cases

The command that lists test cases loads every file that its paths stand for, and writes nothing unless all of
them can be loaded and all tag expressions can be read. Then it writes a line for each test case that all
expressions select, files in the order of the paths and test cases in the order of their files. So a listing
of more paths is the listing of some of them, and then that of the others (`Check.run_all_or_nothing`).
-/

set_option autoImplicit false

namespace Acceptance

open Acceptance.Text

/-! ## Results for all members of a list -/

namespace Logged

variable {ε α β : Type} {f : α → Logged ε β} {as : List α} {bs : List β}

/-- All members have a result just if each of them has its own. -/
theorem traverse_result_eq_ok :
    (traverse f as).result = .ok bs ↔ List.Forall₂ (fun a b => (f a).result = .ok b) as bs := by
  induction as generalizing bs with
  | nil =>
    rw [List.forall₂_nil_left_iff]
    exact ⟨fun h => (Except.ok.inj h).symm, fun h => congrArg Except.ok h.symm⟩
  | cons a as ih =>
    rw [traverse_cons, bind_result_eq_ok, List.forall₂_cons_left_iff]
    constructor
    · rintro ⟨b, hb, hrest⟩
      obtain ⟨rest, hrest, h⟩ := bind_result_eq_ok.mp hrest
      exact ⟨b, rest, hb, ih.mp hrest, (Except.ok.inj h).symm⟩
    · rintro ⟨b, rest, hb, hrest, rfl⟩
      exact ⟨b, hb, bind_result_eq_ok.mpr ⟨rest, ih.mpr hrest, rfl⟩⟩

/-- There are no results just if one of the members has none. -/
theorem traverse_result_eq_error :
    (∃ reason, (traverse f as).result = .error reason) ↔ ∃ a ∈ as, ∃ reason, (f a).result = .error reason := by
  induction as with
  | nil => simp [pure]
  | cons a as ih =>
    rw [List.exists_mem_cons_iff, ← ih, traverse_cons]
    simp only [bind_result_eq_error, pure, reduceCtorEq, and_false, exists_false, or_false]
    cases (f a).result <;> simp

end Logged

namespace Check

/-! ## Files of a path -/

/-- The name of a file of features: something and the extension. -/
def IsFeatureName (name : String) : Prop :=
  ∃ stem, stem ≠ "" ∧ name = stem ++ ".feature"

/-- The files that a path stands for: a directory stands for what it holds with names of features, in
ascending order, and anything else for itself. -/
inductive StandsFor (fs : FileSystem) (path : String) : List String → Prop where
  | directory {names features others : List String} : fs.entry path = .ok (.directory names) →
      names.Perm (features ++ others) → (∀ name ∈ features, IsFeatureName name) →
      (∀ name ∈ others, ¬ IsFeatureName name) → features.Pairwise (· ≤ ·) →
      StandsFor fs path (features.map (joinPath path))
  | itself : (∀ names, fs.entry path ≠ .ok (.directory names)) → StandsFor fs path [path]

/-- Inserting a name loses no name and adds only that one. -/
theorem perm_insertSorted (name : String) (names : List String) :
    (insertSorted name names).Perm (name :: names) := by
  induction names with
  | nil => exact .refl _
  | cons n ns ih =>
    unfold insertSorted
    split
    · exact .refl _
    · exact (ih.cons n).trans (.swap name n ns)

/-- Inserting a name into sorted names keeps them sorted. -/
theorem pairwise_insertSorted {name : String} {names : List String} (h : names.Pairwise (· ≤ ·)) :
    (insertSorted name names).Pairwise (· ≤ ·) := by
  induction names with
  | nil => exact List.pairwise_singleton _ _
  | cons n ns ih =>
    obtain ⟨hfirst, hrest⟩ := List.pairwise_cons.mp h
    unfold insertSorted
    split
    · next hlt =>
      have hle : name ≤ n := String.not_lt.mp fun hgt => String.lt_irrefl n (String.lt_trans hgt hlt)
      refine List.pairwise_cons.mpr ⟨?_, h⟩
      exact List.forall_mem_cons.mpr ⟨hle, fun m hm => String.le_trans hle (hfirst m hm)⟩
    · next hnlt =>
      refine List.pairwise_cons.mpr ⟨fun m hm => ?_, ih hrest⟩
      rcases List.mem_cons.mp ((perm_insertSorted name ns).subset hm) with rfl | hm
      · exact String.not_lt.mp hnlt
      · exact hfirst m hm

/-- Sorting loses no name and adds none. -/
theorem perm_sortNames (names : List String) : (sortNames names).Perm names := by
  induction names with
  | nil => exact .nil
  | cons name names ih => exact (perm_insertSorted name (sortNames names)).trans (ih.cons name)

/-- Sorted names are in the order of their characters. -/
theorem pairwise_sortNames (names : List String) : (sortNames names).Pairwise (· ≤ ·) := by
  induction names with
  | nil => exact .nil
  | cons name names ih => exact pairwise_insertSorted ih

/-- What stands behind the last point is the extension, unless the name begins with that point. -/
theorem extension?_of_point {name : String} {stem ext : List Char} (hname : name.toList = stem ++ '.' :: ext)
    (hext : '.' ∉ ext) : extension? name = if stem = [] then none else some (String.ofList ext) := by
  have hcut : cutAt (· == '.') name.toList = cutAt (· == '.') stem ++ [ext] := by
    rw [hname, cutAt_append_of_cut (p := (· == '.')) rfl, cutAt_of_notMem hext]
  unfold extension?
  rw [hcut]
  cases stem with
  | nil => rfl
  | cons c stem =>
    have hpieces : cutAt (· == '.') (c :: stem) ≠ [[]] := by
      intro hnone
      simp only [cutAt] at hnone
      split at hnone
      · exact cutAt_ne_nil _ _ (List.cons.inj hnone).2
      · split at hnone <;> cases hnone
    have hne := cutAt_ne_nil (· == '.') (c :: stem)
    rw [if_neg (List.cons_ne_nil c stem)]
    split
    · next hnil => exact absurd (List.append_eq_nil_iff.mp hnil).1 hne
    · next piece hone =>
      have hone : cutAt (· == '.') (c :: stem) ++ [ext] = [] ++ [piece] := hone
      exact absurd (List.append_inj' hone rfl).1 hne
    · next piece htwo =>
      have htwo : cutAt (· == '.') (c :: stem) ++ [ext] = [[]] ++ [piece] := htwo
      exact absurd (List.append_inj' htwo rfl).1 hpieces
    · rw [List.getLast?_concat]
      rfl

/-- The names with the extension of feature files are just those that end in it behind a stem. -/
theorem extension?_eq_feature {name : String} : extension? name = some "feature" ↔ IsFeatureName name := by
  have hplain : '.' ∉ "feature".toList := by decide
  constructor
  · intro h
    by_cases hpoint : '.' ∈ name.toList.reverse
    · obtain ⟨ext, stem, hreverse, hext⟩ := List.eq_append_cons_of_mem hpoint
      have hname : name.toList = stem.reverse ++ '.' :: ext.reverse := by
        rw [← List.reverse_reverse name.toList, hreverse]
        simp
      rw [extension?_of_point hname (by simpa using hext)] at h
      split at h
      · cases h
      · next hstem =>
        have hfeature : ext.reverse = "feature".toList := by
          rw [← Option.some.inj h, String.toList_ofList]
        refine ⟨String.ofList stem.reverse, by simpa using hstem, ?_⟩
        rw [← String.toList_inj, hname, String.toList_append, String.toList_ofList, hfeature]
        rfl
    · rw [List.mem_reverse] at hpoint
      unfold extension? at h
      rw [cutAt_of_notMem hpoint] at h
      cases h
  · rintro ⟨stem, hstem, rfl⟩
    have hname : (stem ++ ".feature").toList = stem.toList ++ '.' :: "feature".toList := by
      rw [String.toList_append]
      rfl
    rw [extension?_of_point hname hplain, if_neg (by simpa using hstem)]
    rfl

/-- A path stands for the files that the command finds there, and for no others. -/
theorem standsFor_iff {fs : FileSystem} {path : String} {files : List String} :
    StandsFor fs path files ↔ files = filesAt fs path := by
  constructor
  · intro h
    cases h with
    | @directory names features others hentry hnames hfeatures hothers hsorted =>
      have hkept : (features ++ others).filter (fun name => extension? name == some "feature") = features := by
        rw [List.filter_append, List.filter_eq_self.mpr, List.filter_eq_nil_iff.mpr, List.append_nil]
        · intro name hname
          simpa [extension?_eq_feature] using hothers name hname
        · intro name hname
          simpa [extension?_eq_feature] using hfeatures name hname
      have hperm : features.Perm (sortNames (names.filter fun name => extension? name == some "feature")) := by
        refine List.Perm.trans ?_ (perm_sortNames _).symm
        rw [← hkept]
        exact (hnames.filter _).symm
      have hsame := hperm.eq_of_pairwise (fun _ _ _ _ => String.le_antisymm) hsorted (pairwise_sortNames _)
      unfold filesAt
      rw [hentry, hsame]
    | itself hentry =>
      unfold filesAt
      split
      · next names hnames => exact absurd hnames (hentry names)
      · rfl
  · rintro rfl
    unfold filesAt
    split
    · next names hnames =>
      let isFeature (name : String) : Bool := extension? name == some "feature"
      have hperm : names.Perm (sortNames (names.filter isFeature) ++ names.filter fun name => !isFeature name) :=
        (List.filter_append_perm isFeature names).symm.trans ((perm_sortNames _).symm.append_right _)
      refine .directory hnames hperm ?_ ?_ (pairwise_sortNames _)
      · intro name hname
        have hmem := (perm_sortNames _).subset hname
        simpa [isFeature, extension?_eq_feature] using (List.mem_filter.mp hmem).2
      · intro name hname
        simpa [isFeature, extension?_eq_feature] using (List.mem_filter.mp hname).2
    · next hentry => exact .itself hentry

/-! ## Lines -/

/-- A line that consists of words, with nothing but spaces between them. -/
structure Reads (line : String) (ws : List String) : Prop where
  words : words line.toList = ws.map String.toList
  spaces : ∀ c ∈ line.toList, isBlank c = true → c = ' '

/-- A word without blanks in it is read as itself. -/
theorem Reads.word {word : String} (hne : word ≠ "") (h : Unbroken word) : Reads word [word] where
  words := words_of_all_not (by simpa using hne) h
  spaces c hc hblank := absurd hblank (by rw [h c hc]; decide)

/-- Texts with a gap of one or two blanks between them are read as the words of both. -/
theorem Reads.append {first second gap : String} {ws ws' : List String} (hfirst : Reads first ws)
    (hgap : gap = " " ∨ gap = "  ") (hsecond : Reads second ws') : Reads (first ++ gap ++ second) (ws ++ ws') := by
  have hblank : isBlank ' ' = true := rfl
  constructor
  · rw [List.map_append, ← hfirst.words, ← hsecond.words, String.toList_append, String.toList_append,
      List.append_assoc]
    rcases hgap with rfl | rfl
    · exact words_append_cons hblank _ _
    · exact (words_append_cons hblank _ _).trans (congrArg _ (words_append_cons hblank [] _))
  · intro c hc
    rw [String.toList_append, String.toList_append] at hc
    rcases List.mem_append.mp hc with hc | hc
    · rcases List.mem_append.mp hc with hc | hc
      · exact hfirst.spaces c hc
      · rcases hgap with rfl | rfl <;> exact fun _ => by simpa using hc
    · exact hsecond.spaces c hc

/-- Words that are joined by single blanks come back. -/
theorem Reads.intercalate {ws : List String} (hne : ws ≠ []) (h : ∀ word ∈ ws, word ≠ "" ∧ Unbroken word) :
    Reads (" ".intercalate ws) ws := by
  induction ws with
  | nil => exact absurd rfl hne
  | cons word ws ih =>
    obtain ⟨hword, hws⟩ := List.forall_mem_cons.mp h
    have hfirst := Reads.word hword.1 hword.2
    cases ws with
    | nil => simpa using hfirst
    | cons next ws =>
      rw [String.intercalate_cons_cons]
      exact hfirst.append (.inl rfl) (ih (List.cons_ne_nil _ _) hws)

/-- A number is written without blanks. -/
theorem unbroken_toString (n : Nat) : Unbroken (toString n) := by
  intro c hc
  rw [Nat.toString_eq_repr, Nat.toList_repr] at hc
  have hdigit : isAsciiDigit c = true := Nat.isDigit_of_mem_toDigits (by decide) (by decide) hc
  refine isBlank_of_isAsciiWord ?_
  unfold isAsciiWord
  rw [hdigit, Bool.or_true, Bool.true_or]

end Check

/-- The number of steps of a test case, without those of its backgrounds. -/
def TestCase.ownSteps {W : Type} (c : TestCase W) : Nat :=
  (c.scenario.map fun scenario => scenario.steps.length).getD 0

/-- The tags of a test case as they are listed, or a hyphen if there are none. -/
def TestInfo.listedTags (info : TestInfo) : List String :=
  if info.tags.isEmpty then ["-"] else info.tags.names.map ("@" ++ ·)

namespace Check

/-- **A line** shows the identity of its test case, the tags, and the number of its own steps. -/
theorem reads_caseLine {c : TestCase Unit} (h : c.info.Unbroken) :
    Reads (caseLine c) ([c.info.id] ++ c.info.listedTags ++ [toString c.ownSteps] ++ ["step(s)"]) := by
  have hid : Reads c.info.id [c.info.id] := by
    refine .word ?_ h.id
    unfold TestInfo.id
    intro hempty
    have hlength := congrArg String.length hempty
    simp at hlength
  have htags : Reads (if c.info.tags.isEmpty then "-" else c.info.tags.display) c.info.listedTags := by
    unfold TestInfo.listedTags TagSet.display TagSet.isEmpty
    split
    · exact .word (by decide) (by decide)
    · next hsome =>
      refine .intercalate (by simpa using hsome) ?_
      intro word hword
      obtain ⟨tag, htag, rfl⟩ := List.mem_map.mp hword
      have hmarker : Unbroken "@" := by decide
      refine ⟨fun hempty => ?_, hmarker.append (h.tags tag htag)⟩
      have hlength := congrArg String.length hempty
      simp at hlength
  have hcount : Reads (toString c.ownSteps) [toString c.ownSteps] := by
    refine .word ?_ (unbroken_toString _)
    rw [Nat.toString_eq_repr, ← String.toList_inj.ne, Nat.toList_repr]
    exact Nat.toDigits_ne_nil
  have hunit : Reads "step(s)" ["step(s)"] := .word (by decide) (by decide)
  have hline := ((hid.append (.inr rfl) htags).append (.inr rfl) hcount).append (.inl rfl) hunit
  have hend : " " ++ "step(s)" = " step(s)" := by decide
  rw [String.append_assoc, hend] at hline
  unfold TestCase.ownSteps at hline ⊢
  unfold caseLine
  cases hscenario : c.scenario <;> rw [hscenario] at hline <;> exact hline

/-- A line is read as it is written. -/
theorem asRead_caseLine {c : TestCase Unit} (h : c.info.Unbroken) :
    '\n' ∉ (caseLine c).toList ∧ asRead (caseLine c) = caseLine c := by
  have hspaces := (reads_caseLine h).spaces
  refine ⟨fun hmem => absurd (hspaces _ hmem rfl) (by decide), asRead_of_ne fun hlast => ?_⟩
  exact absurd (hspaces _ (List.mem_of_getLast? hlast) rfl) (by decide)

/-! ## Listings -/

/-- The text that lists test cases. -/
def listing (cases : Suite Unit) : String :=
  String.join ((cases.map caseLine).map (· ++ "\n"))

/-- Suites are listed one after the other. -/
theorem listing_append (first second : Suite Unit) :
    listing (first ++ second) = listing first ++ listing second := by
  unfold listing
  rw [List.map_append, List.map_append, String.join_append]

/-- A listing has one line for each test case. -/
theorem linesOf_listing {cases : Suite Unit} (h : ∀ c ∈ cases, c.info.Unbroken) :
    linesOf (listing cases) = cases.map caseLine := by
  have hfeed : ∀ line ∈ cases.map caseLine, '\n' ∉ line.toList :=
    List.forall_mem_map.mpr fun c hc => (asRead_caseLine (h c hc)).1
  unfold listing
  rw [linesOf_join hfeed, List.map_map]
  exact List.map_congr_left fun c hc => (asRead_caseLine (h c hc)).2

/-! ## The command -/

/-- The loader of the command. It knows no step definitions. -/
def loader : Loader Unit :=
  { registry := Registry.empty }

/-- The suite that the file at a path gives. -/
def Loads (fs : FileSystem) (file : String) (suite : Suite Unit) : Prop :=
  (loader.loadPath fs file).result = .ok suite

/-- A file gives a suite just where it can be loaded. -/
theorem loadFile_eq_ok {fs : FileSystem} {file : String} {suite : Suite Unit} :
    (loadFile fs file).result = .ok suite ↔ Loads fs file suite := by
  unfold loadFile Loads loader
  rw [Logged.bind_result_eq_ok]
  simp [Logged.mapError_result_eq_ok]

/-- A file that cannot be loaded is reported, and no other one is. -/
theorem loadFile_eq_error {fs : FileSystem} {file : String} :
    (∃ report, (loadFile fs file).result = .error report) ↔
      ∃ fault, (loader.loadPath fs file).result = .error fault := by
  have hok := @loadFile_eq_ok fs file
  unfold Loads at hok
  cases hfile : (loadFile fs file).result with
  | ok suite => simp [hok.mp hfile]
  | error report =>
    cases hload : (loader.loadPath fs file).result with
    | ok suite => simp [hok.mpr hload] at hfile
    | error fault => simp

/-- No identity of a loaded test case has a blank in it, so that a line of the listing begins with it as one
word. -/
theorem Loads.unbroken {fs : FileSystem} {file : String} {suite : Suite Unit} (h : Loads fs file suite) :
    ∀ c ∈ suite, c.info.Unbroken := by
  unfold Loads Loader.loadPath at h
  split at h
  · exact Loader.unbroken_of_loadStream (by decide) (by decide) h
  · cases h

/-- What makes the command fail: a text that is no tag expression, a path with nothing to be had at it, or a
file that cannot be loaded. -/
inductive Faulty (fs : FileSystem) (paths tags : List String) : Prop where
  | expression {input : String} {fault : TagFault} : input ∈ tags →
      TagExpression.parse input = .error fault → Faulty fs paths tags
  | unreadable {path : String} {fault : FileFault} : path ∈ paths → fs.entry path = .error fault →
      Faulty fs paths tags
  | unloadable {path file : String} {files : List String} {fault : LoadFault} : path ∈ paths →
      StandsFor fs path files → file ∈ files → (loader.loadPath fs file).result = .error fault →
      Faulty fs paths tags

/-- The test cases at paths: those of the files that each path stands for, in order. -/
def Gathers (fs : FileSystem) (paths : List String) (cases : Suite Unit) : Prop :=
  ∃ files suites, List.Forall₂ (StandsFor fs) paths files ∧
    List.Forall₂ (Loads fs) files.flatten suites ∧ cases = suites.flatten

/-- A text that lists test cases: one line for each of them, which shows its identity, its tags, and the
number of its own steps. -/
structure Lists (cases : Suite Unit) (text : String) : Prop where
  lines : List.Forall₂ (fun line c =>
    Reads line ([c.info.id] ++ c.info.listedTags ++ [toString c.ownSteps] ++ ["step(s)"]) ∧
      line = caseLine c) (linesOf text) cases
  complete : text = String.join ((linesOf text).map (· ++ "\n"))

variable {fs : FileSystem} {paths tags : List String} {out : String}

/-- What paths stand for is determined by the file system. -/
theorem forall₂_standsFor {files : List (List String)} :
    List.Forall₂ (StandsFor fs) paths files ↔ files = paths.map (filesAt fs) := by
  induction paths generalizing files with
  | nil => simp
  | cons path paths ih => simp [List.forall₂_cons_left_iff, standsFor_iff, ih]

/-- The test cases that are gathered are those of all files in order, each of which can be loaded. -/
theorem gathers_iff {cases : Suite Unit} : Gathers fs paths cases ↔ ∃ suites,
    List.Forall₂ (Loads fs) (paths.flatMap (filesAt fs)) suites ∧ cases = suites.flatten := by
  unfold Gathers
  simp only [forall₂_standsFor, List.flatMap_def]
  simp

/-- Gathering paths and then others gathers the test cases of both, in that order. -/
theorem Gathers.append {others : List String} {first second : Suite Unit} (hfirst : Gathers fs paths first)
    (hsecond : Gathers fs others second) : Gathers fs (paths ++ others) (first ++ second) := by
  obtain ⟨suites, hsuites, rfl⟩ := gathers_iff.mp hfirst
  obtain ⟨suites', hsuites', rfl⟩ := gathers_iff.mp hsecond
  refine gathers_iff.mpr ⟨suites ++ suites', ?_, List.flatten_append.symm⟩
  rw [List.flatMap_append]
  exact List.rel_append hsuites hsuites'

/-- No identity of a test case that has been gathered has a blank in it. -/
theorem Gathers.unbroken {cases : Suite Unit} (h : Gathers fs paths cases) :
    ∀ c ∈ cases, c.info.Unbroken := by
  obtain ⟨suites, hsuites, rfl⟩ := gathers_iff.mp h
  intro c hc
  obtain ⟨suite, hsuite, hc⟩ := List.mem_flatten.mp hc
  obtain ⟨file, -, hload⟩ := exists_left_of_mem hsuites hsuite
  exact hload.unbroken c hc

/-- **What the command writes** are the test cases at its paths that all expressions select. -/
theorem run_eq_ok : (run fs paths tags).result = .ok out ↔ ∃ e cases, TagExpression.all tags = .ok e ∧
    Gathers fs paths cases ∧ out = listing (cases.select e) := by
  unfold run lines
  rw [Logged.bind_result_eq_ok]
  cases TagExpression.all tags with
  | error fault => simp [Logged.fail]
  | ok e =>
    simp only [Logged.bind_result_eq_ok, Logged.traverse_result_eq_ok, loadFile_eq_ok, gathers_iff]
    constructor
    · rintro ⟨ls, ⟨suites, hsuites, hls⟩, hout⟩
      cases hls
      cases hout
      exact ⟨e, suites.flatten, rfl, ⟨suites, hsuites, rfl⟩, rfl⟩
    · rintro ⟨e', cases, he, ⟨suites, hsuites, rfl⟩, rfl⟩
      cases he
      exact ⟨_, ⟨suites, hsuites, rfl⟩, rfl⟩

/-- **When the command fails**: not unless something is wrong with what it is given. -/
theorem run_eq_error : (∃ report, (run fs paths tags).result = .error report) ↔ Faulty fs paths tags := by
  have hrun : (∃ report, (run fs paths tags).result = .error report) ↔
      (∃ fault, TagExpression.all tags = .error fault) ∨
        ∃ file ∈ paths.flatMap (filesAt fs), ∃ fault, (loader.loadPath fs file).result = .error fault := by
    unfold run lines
    cases TagExpression.all tags with
    | error fault => simp [Logged.bind, Logged.fail]
    | ok e =>
      simp only [Logged.bind_result_eq_error, Logged.pure, reduceCtorEq, and_false, exists_false, or_false,
        false_or, Logged.traverse_result_eq_error, loadFile_eq_error]
  rw [hrun, TagExpression.all_eq_error]
  constructor
  · rintro (⟨input, hinput, fault, hfault⟩ | ⟨file, hfile, fault, hfault⟩)
    · exact .expression hinput hfault
    · obtain ⟨path, hpath, hfile⟩ := List.mem_flatMap.mp hfile
      exact .unloadable hpath (standsFor_iff.mpr rfl) hfile hfault
  · intro h
    cases h with
    | expression hinput hfault => exact .inl ⟨_, hinput, _, hfault⟩
    | @unreadable path fault hpath hfault =>
      have hfile : path ∈ filesAt fs path := by
        unfold filesAt
        rw [hfault]
        exact List.mem_singleton.mpr rfl
      refine .inr ⟨path, List.mem_flatMap.mpr ⟨path, hpath, hfile⟩, .cannotOpen path fault.message, ?_⟩
      unfold Loader.loadPath FileSystem.openStream
      rw [hfault]
      rfl
    | unloadable hpath hfiles hfile hfault =>
      rw [standsFor_iff.mp hfiles] at hfile
      exact .inr ⟨_, List.mem_flatMap.mpr ⟨_, hpath, hfile⟩, _, hfault⟩

/-- A listing lists test cases without blanks in their identities and in their tags. -/
theorem lists_listing {cases : Suite Unit} (h : ∀ c ∈ cases, c.info.Unbroken) :
    Lists cases (listing cases) := by
  have hlines := linesOf_listing h
  constructor
  · rw [hlines, List.forall₂_map_left_iff]
    exact List.forall₂_same.mpr fun c hc => ⟨reads_caseLine (h c hc), rfl⟩
  · rw [hlines]
    rfl

/-- **All or nothing, and path by path.** The command fails just if an expression is malformed or a path
cannot be read or loaded. Else it lists the test cases at its paths that all expressions select, and what it
lists for more paths is what it lists for some of them and then what it lists for the others. The program
writes nothing if the command fails, and else what the command lists. -/
theorem run_all_or_nothing (fs : FileSystem) (paths tags : List String) :
    ((∃ report, (run fs paths tags).result = .error report) ↔ Faulty fs paths tags) ∧
    (∀ out, (run fs paths tags).result = .ok out → ∃ cases, Gathers fs paths cases ∧
      Lists (cases.filter fun c => tags.all (TagExpression.selects · c.info.tags)) out) ∧
    (∀ others first second, (run fs paths tags).result = .ok first →
      (run fs others tags).result = .ok second →
        (run fs (paths ++ others) tags).result = .ok (first ++ second)) ∧
    ∀ arguments environment option level,
      readArguments arguments = .ok (.run option (.check tags paths)) →
      LogLevel.effective environment option = .ok level →
        let ran := Program.run arguments environment fs
        (∃ report, (run fs paths tags).result = .error report ∧ ran.ending = .failed report ∧
          ran.stdout = "") ∨
        ∃ out, (run fs paths tags).result = .ok out ∧ ran.ending = .success ∧ ran.stdout = out := by
  refine ⟨run_eq_error, ?_, ?_, ?_⟩
  · intro out h
    obtain ⟨e, cases, he, hcases, rfl⟩ := run_eq_ok.mp h
    have hselect : cases.select e = cases.filter fun c => tags.all (TagExpression.selects · c.info.tags) := by
      unfold Suite.select
      simp only [TagExpression.holds_of_all he]
    refine ⟨cases, hcases, ?_⟩
    rw [hselect]
    exact lists_listing fun c hc => hcases.unbroken c (List.mem_of_mem_filter hc)
  · intro others first second hfirst hsecond
    obtain ⟨e, cases, he, hcases, rfl⟩ := run_eq_ok.mp hfirst
    obtain ⟨e', cases', he', hcases', rfl⟩ := run_eq_ok.mp hsecond
    obtain rfl : e = e' := Except.ok.inj (he.symm.trans he')
    refine run_eq_ok.mpr ⟨e, cases ++ cases', he, hcases.append hcases', ?_⟩
    rw [← listing_append]
    exact congrArg listing (List.filter_append _ _).symm
  · intro arguments environment option level hread hlevel ran
    have hran : ran = Program.run arguments environment fs := rfl
    unfold Program.run at hran
    rw [hread] at hran
    dsimp only at hran
    rw [hlevel] at hran
    dsimp only [Program.runCommand] at hran
    cases hresult : (run fs paths tags).result with
    | error report =>
      rw [hresult] at hran
      exact .inl ⟨report, rfl, by rw [hran], by rw [hran]⟩
    | ok out =>
      rw [hresult] at hran
      exact .inr ⟨out, rfl, by rw [hran], by rw [hran]⟩

/-- A directory with two features and something else, a feature beside it, and a path that leads nowhere. -/
theorem run_all_or_nothing_directory :
    let fs := FileSystem.ofEntries
      [("d", .ok (.directory ["b.feature", "notes", "a.feature"])),
        ("d/a.feature", .ok (.file (Stream.encode "Feature: a\n@x\nScenario: s\nGiven g\n".toList))),
        ("d/b.feature", .ok (.file (Stream.encode "@x @y\nFeature: b\n".toList))),
        ("c", .ok (.file (Stream.encode "Feature: c\nScenario: s\n".toList)))]
    let listed := "Feature_a.test_Scenario_s  @x  1 step(s)\nFeature_b.run_test  @x @y  0 step(s)\n"
    (run fs ["d"] ["@x"]).result = .ok listed ∧ (run fs ["c", "d"] ["@x"]).result = .ok ("" ++ listed) ∧
      (∃ cases, Gathers fs ["d"] cases ∧
        Lists (cases.filter fun c => ["@x"].all (TagExpression.selects · c.info.tags)) listed) ∧
      (Program.run ["check", "--tags", "@x", "d"] none fs).stdout = listed ∧
      (Program.run ["check", "d", "gone"] none fs).stdout = "" := by
  intro fs listed
  have hd : (run fs ["d"] ["@x"]).result = .ok listed := by decide +kernel
  have hc : (run fs ["c"] ["@x"]).result = .ok "" := by decide +kernel
  have hfaulty : Faulty fs ["d", "gone"] [] :=
    @Faulty.unreadable fs _ _ "gone" .notFound (by decide) rfl
  obtain ⟨-, hlists, -, hlisted⟩ := run_all_or_nothing fs ["d"] ["@x"]
  obtain ⟨-, -, happend, -⟩ := run_all_or_nothing fs ["c"] ["@x"]
  obtain ⟨hfails, -, -, hnothing⟩ := run_all_or_nothing fs ["d", "gone"] []
  refine ⟨hd, happend ["d"] "" listed hc hd, hlists listed hd, ?_, ?_⟩
  · rcases hlisted ["check", "--tags", "@x", "d"] none none .warn (by decide) rfl with
      ⟨report, hreport, -, -⟩ | ⟨out, hout, -, hstdout⟩
    · rw [hd] at hreport
      cases hreport
    · rw [hd] at hout
      cases hout
      exact hstdout
  · obtain ⟨report, hreport⟩ := hfails.mpr hfaulty
    rcases hnothing ["check", "d", "gone"] none none .warn (by decide) rfl with
      ⟨-, -, -, hstdout⟩ | ⟨out, hout, -, -⟩
    · exact hstdout
    · rw [hreport] at hout
      cases hout

end Check

end Acceptance
