import Acceptance.Proofs.Load.Warnings
import Acceptance.Proofs.Text.Slug

/-!
# The names of the rows of an examples block

The title of the scenario that a row makes ends with the number of the row and the label of the block. Whatever
stands before them, the slug of the title ends with both, and the number can be told from what comes before it. So
no two rows of a block make scenarios of one name, and a block that ends takes the place of no scenario of its own:
each of its scenarios replaces one that was there before, or is new (`Loader.rows_of_examples`).
-/

set_option autoImplicit false

namespace Acceptance

open Text

variable {W : Type}

/-! ## Slugs of numbered titles -/

namespace Text

variable {title title' label before before' : List Char} {number number' : Nat}

/-- A digit is a character of words. -/
theorem isAsciiWord_of_isDigit {c : Char} (h : c.isDigit = true) : isAsciiWord c = true := by
  have hdigit : isAsciiDigit c = true := h
  rw [isAsciiWord, hdigit, Bool.or_true, Bool.true_or]

/-- The digits of a number are characters of words. -/
theorem isAsciiWord_of_mem_toDigits {c : Char} (h : c ∈ Nat.toDigits 10 number) : isAsciiWord c = true :=
  isAsciiWord_of_isDigit (Nat.isDigit_of_mem_toDigits (by decide) (by decide) h)

/-- **The slug of a numbered title** ends with the number and the label, and the number does not go on with digits
to the left. -/
theorem slugChars_numbered (title : List Char) (number : Nat) (hlabel : ∀ c ∈ label, isAsciiWord c = true)
    (hne : label ≠ []) :
    ∃ before, before.getLast?.any Char.isDigit = false ∧
      slugChars (title ++ ' ' :: (Nat.toDigits 10 number ++ ' ' :: label)) =
        before ++ Nat.toDigits 10 number ++ '_' :: label := by
  obtain ⟨digit, digits, hdigits⟩ := List.exists_cons_of_ne_nil (Nat.toDigits_ne_nil (n := number) (b := 10))
  have hnumber : ∀ c ∈ Nat.toDigits 10 number, isAsciiWord c = true := fun c hc => isAsciiWord_of_mem_toDigits hc
  have hdigit : isAsciiWord digit = true := hnumber digit (hdigits ▸ List.mem_cons_self)
  obtain ⟨last, hlast⟩ : ∃ last, label.getLast? = some last := ⟨_, List.getLast?_eq_some_getLast hne⟩
  have hword : isAsciiWord last = true := hlabel last (List.mem_of_getLast? hlast)
  have hhead {p : Char → Bool} (h : p digit = false) :
      (Nat.toDigits 10 number ++ ' ' :: label).head?.any p = false := by
    rw [hdigits, List.cons_append, List.head?_cons, Option.any_some, h]
  have hend : (Nat.toDigits 10 number ++ ' ' :: label).getLast?.any isBlank = false := by
    rw [List.getLast?_append, List.getLast?_cons, hlast]
    exact isBlank_of_isAsciiWord hword
  have hslug := slugChars_append title (asciiForm_words hnumber hlabel)
    (List.append_ne_nil_of_right_ne_nil _ (List.cons_ne_nil _ _)) (hhead (isBlank_of_isAsciiWord hdigit))
    (hhead (isSlugSeparator_of_isAsciiWord hdigit)) hend
  rw [joinSlug_words hnumber hlabel hne] at hslug
  rcases hslug with ⟨-, hslug⟩ | ⟨-, before, hslug⟩
  · exact ⟨[], rfl, hslug⟩
  · refine ⟨before ++ ['_'], ?_, ?_⟩
    · rw [List.getLast?_append_of_ne_nil]
      · rfl
      · exact List.cons_ne_nil _ _
    · rw [hslug]
      simp

/-- The digits at the end of a text are the number that it ends with. -/
theorem takeWhile_reverse_toDigits (h : before.getLast?.any Char.isDigit = false) (number : Nat) :
    (before ++ Nat.toDigits 10 number).reverse.takeWhile Char.isDigit = (Nat.toDigits 10 number).reverse := by
  have hdigits : ∀ c ∈ (Nat.toDigits 10 number).reverse, c.isDigit = true := fun c hc =>
    Nat.isDigit_of_mem_toDigits (by decide) (by decide) (List.mem_reverse.mp hc)
  have hbefore : before.reverse.takeWhile Char.isDigit = [] := by
    rw [← List.head?_reverse] at h
    cases hreverse : before.reverse with
    | nil => rfl
    | cons c more =>
      rw [hreverse, List.head?_cons, Option.any_some] at h
      exact List.takeWhile_cons_of_neg (by simp [h])
  rw [List.reverse_append, List.takeWhile_append_of_pos hdigits, hbefore, List.append_nil]

/-- **Numbered titles** with one slug have one number, whatever else they say. -/
theorem eq_of_slugChars_numbered (hlabel : ∀ c ∈ label, isAsciiWord c = true) (hne : label ≠ [])
    (h : slugChars (title ++ ' ' :: (Nat.toDigits 10 number ++ ' ' :: label)) =
      slugChars (title' ++ ' ' :: (Nat.toDigits 10 number' ++ ' ' :: label))) : number = number' := by
  obtain ⟨before, hbefore, hslug⟩ := slugChars_numbered title number hlabel hne
  obtain ⟨before', hbefore', hslug'⟩ := slugChars_numbered title' number' hlabel hne
  rw [hslug, hslug'] at h
  have hnumbered : before ++ Nat.toDigits 10 number = before' ++ Nat.toDigits 10 number' :=
    List.append_cancel_right h
  have hdigits : Nat.toDigits 10 number = Nat.toDigits 10 number' := by
    rw [← List.reverse_inj, ← takeWhile_reverse_toDigits hbefore, hnumbered,
      takeWhile_reverse_toDigits hbefore']
  calc number = Nat.ofDigitChars 10 (Nat.toDigits 10 number) 0 := Nat.ofDigitChars_ten_toDigits.symm
    _ = number' := by rw [hdigits, Nat.ofDigitChars_ten_toDigits]

end Text

/-! ## The names of rows -/

namespace NamingConfig

/-- In valid settings every value can begin an identifier. -/
theorem beginsIdentifier_of_settings {config : NamingConfig} (h : config.invalidSetting? = none)
    {setting value : String} (hmem : (setting, value) ∈ config.settings) : beginsIdentifier value = true := by
  have hvalid := List.find?_eq_none.mp h (setting, value) hmem
  simpa using hvalid

/-- A text that can begin an identifier has characters of words only, and one at least. -/
theorem isAsciiWord_of_beginsIdentifier {text : String} (h : beginsIdentifier text = true) :
    text.toList ≠ [] ∧ ∀ c ∈ text.toList, isAsciiWord c = true := by
  unfold beginsIdentifier at h
  cases htext : text.toList with
  | nil =>
    rw [htext] at h
    cases h
  | cons c cs =>
    rw [htext] at h
    simp only [Bool.and_eq_true, Bool.or_eq_true] at h
    refine ⟨List.cons_ne_nil _ _, List.forall_mem_cons.mpr ⟨?_, List.all_eq_true.mp h.2⟩⟩
    simp only [isAsciiWord, Bool.or_eq_true]
    exact h.1.imp_left .inl

/-- The label of an examples block is made of ASCII letters, digits and underscores, of one at least. -/
theorem isAsciiWord_of_label {config : NamingConfig} (h : config.invalidSetting? = none) (name : String) :
    (config.examplesPrefix ++ slugify name).toList ≠ [] ∧
      ∀ c ∈ (config.examplesPrefix ++ slugify name).toList, isAsciiWord c = true := by
  have hsetting : ("examples_prefix", config.examplesPrefix) ∈ config.settings := by simp [settings]
  obtain ⟨hne, hword⟩ := isAsciiWord_of_beginsIdentifier (beginsIdentifier_of_settings h hsetting)
  rw [String.toList_append, slugify, String.toList_ofList]
  exact ⟨List.append_ne_nil_of_left_ne_nil hne _, List.forall_mem_append.mpr
    ⟨hword, fun c hc => isAsciiWord_of_mem_slugChars hc⟩⟩

end NamingConfig

namespace Scenario

variable {config : NamingConfig} {r : Registry W}

/-- The names of the test cases that the rows of a table make of an outline, in an examples block of the given
name. -/
def rowNames (config : NamingConfig) (outline : Scenario W) (name : String) (table : Table) : List String :=
  table.rows.zipIdx.map fun (cells, index) =>
    config.scenarioPrefix ++
      slugify (outline.rowTitle (table.values cells) (index + 1) (config.examplesPrefix ++ slugify name))

/-- The slug of a row's title is that of the filled title, the number and the label with blanks between
them. -/
theorem slugify_rowTitle (outline : Scenario W) (values : Substitution) (number : Nat) (label : String) :
    slugify (outline.rowTitle values number label) = String.ofList (slugChars
      ((values.apply outline.title).toList ++ ' ' :: (Nat.toDigits 10 number ++ ' ' :: label.toList))) := by
  unfold slugify rowTitle
  simp [Nat.toString_eq_repr, Nat.toList_repr]

/-- **The rows of an examples block have different names**, whatever their cells are. -/
theorem nodup_rowNames (hconfig : config.invalidSetting? = none) (outline : Scenario W) (name : String)
    (table : Table) : (outline.rowNames config name table).Nodup := by
  obtain ⟨hne, hlabel⟩ := NamingConfig.isAsciiWord_of_label hconfig name
  refine List.pairwise_map.mpr (List.pairwise_iff_getElem.mpr fun i j hi hj hij hsame => ?_)
  rw [List.getElem_zipIdx, List.getElem_zipIdx] at hsame
  have hslugs := String.append_right_inj _ |>.mp hsame
  rw [slugify_rowTitle, slugify_rowTitle, String.ofList_inj] at hslugs
  have hnumber := eq_of_slugChars_numbered hlabel hne hslugs
  omega

/-- The scenarios that an outline makes of a table have the names of its rows. -/
theorem map_nameOf_expand {outline : Scenario W} {name : String} {tags : TagSet} {table : Table}
    {scenarios : List (Scenario W)}
    (h : (outline.expand (.ofTable (config.examplesPrefix ++ slugify name) tags table) r).result =
      .ok scenarios) : scenarios.map (Draft.nameOf config) = outline.rowNames config name table := by
  have hmade := (outline.expand_passes (config.examplesPrefix ++ slugify name) tags table).of_ok h
  unfold rowNames
  clear h
  generalize table.rows.zipIdx = rows at hmade
  induction hmade with
  | nil => rfl
  | cons hrow _ ih =>
    rw [List.map_cons, List.map_cons, ih, Draft.nameOf, hrow.title]
    rfl

end Scenario

/-! ## Drafts -/

namespace Draft

variable {config : NamingConfig} {r : Registry W} {d next : Draft W} {event : Event} {events : List Event}

/-- A draft whose feature has no name twice, and whose open examples block has a label that is made of a name. -/
structure WellNamed (config : NamingConfig) (d : Draft W) : Prop where
  names : ∀ f, d.feature = some f → f.names.Nodup
  label : ∀ label tags, d.examples = some (label, tags) → ∃ name, label = config.examplesPrefix ++ slugify name

/-- A new draft is well named. -/
theorem wellNamed_empty : ({} : Draft W).WellNamed config :=
  ⟨nofun, nofun⟩

/-- A draft stays well named while its names and the open examples block stay. -/
theorem WellNamed.congr (h : d.WellNamed config)
    (hfeature : next.feature.map Feature.scenarios = d.feature.map Feature.scenarios)
    (hexamples : next.examples = d.examples) : next.WellNamed config := by
  refine ⟨fun f hf => ?_, fun label tags hlabel => h.label label tags (hexamples ▸ hlabel)⟩
  rw [hf, Option.map_some] at hfeature
  obtain ⟨before, hbefore, hscenarios⟩ := Option.map_eq_some_iff.mp hfeature.symm
  have hnames := h.names before hbefore
  rwa [Feature.names, hscenarios] at hnames

/-- **Every event** leaves a draft well named. -/
theorem WellNamed.handle (h : d.WellNamed config) (hnext : (d.handle config r event).result = .ok next) :
    next.WellNamed config := by
  cases event with
  | startFeature title =>
    cases hnext
    exact ⟨fun f hf => Option.some.inj hf ▸ List.nodup_nil, h.label⟩
  | finishFeature =>
    rw [closeFeature_result hnext]
    exact ⟨nofun, h.label⟩
  | finishDescription =>
    cases hnext
    refine h.congr ?_ rfl
    rw [closeDescription, Option.map_map]
    rfl
  | finishScenario =>
    rw [finishScenario_result hnext]
    refine ⟨fun g hg => ?_, h.label⟩
    obtain ⟨f, hf, rfl⟩ := Option.map_eq_some_iff.mp hg
    exact Feature.nodup_names_addAll (h.names f hf)
  | startExamples name =>
    cases hnext
    refine ⟨h.names, fun label tags hlabel => ⟨name, ?_⟩⟩
    exact (congrArg Prod.fst (Option.some.inj hlabel)).symm
  | finishExamples =>
    rw [closeExamples_result hnext]
    refine ⟨fun g hg => ?_, nofun⟩
    obtain ⟨f, hf, rfl⟩ := Option.map_eq_some_iff.mp hg
    exact Feature.nodup_names_addAll (h.names f hf)
  | finishStep =>
    obtain ⟨_, _, _, rfl⟩ := exists_closeStep_result hnext
    exact h.congr rfl rfl
  | tableData cells =>
    rw [tableData_result hnext]
    exact h.congr rfl rfl
  | _ =>
    cases hnext
    exact h.congr rfl rfl

/-- **Whatever events** a draft has come through, it is well named. -/
theorem WellNamed.answerAll (h : d.WellNamed config)
    (hevents : (builder config r).answerAll d events = .ok next) : next.WellNamed config :=
  answerAll_invariant (fun _ _ _ _ h hnext => h.handle hnext) hevents h

/-- What becomes of the scenarios of a feature when others of different names are added, and how many of these
are warned of as replacements. -/
theorem closeExamples_of_nodup {f : Feature W} {rows : List (Scenario W)} (hfeature : d.feature = some f)
    (hnames : f.names.Nodup) (hrows : d.ended r .finishExamples = rows)
    (hdifferent : (rows.map (nameOf config)).Nodup) (hnext : (d.closeExamples config r).result = .ok next) :
    next.feature = some { f with
      scenarios := f.scenarios.map (Feature.withReplacement (nameOf config) rows) ++
        (rows.filter fun s => !f.hasName (nameOf config s)).map fun s => (nameOf config s, s) } ∧
      (d.closeExamples config r).log.replacements d.source =
        rows.countP fun s => f.hasName (nameOf config s) := by
  have hscenarios := Feature.scenarios_addAll_of_nodup hnames hdifferent
  constructor
  · rw [closeExamples_result hnext, hfeature, hrows, Option.map_some, Feature.addAll_eq, hscenarios]
  · have hcount := replacements_closeExamples hfeature hnext
    have hlength : (f.addAll (nameOf config) rows).names.length =
        f.names.length + (rows.filter fun s => !f.hasName (nameOf config s)).length := by
      rw [Feature.names, hscenarios, List.map_append, List.length_append, List.length_map, List.length_map,
        List.length_map, List.length_map, Feature.names, List.length_map]
    have hsplit := List.length_eq_length_filter_add (l := rows) fun s => f.hasName (nameOf config s)
    rw [hrows] at hcount
    rw [List.countP_eq_length_filter]
    omega

end Draft

namespace Loader

/-- **Rows of one examples block** do not get in each other's way. With settings that can begin identifiers, the
rows of every table have different names, whatever the title of the outline, the name of the block and the cells
are. So where an examples block ends, after whatever events, its scenarios have the names of its rows; those of
them whose name was taken before stand in the places of the earlier scenarios of the feature, which is what is
warned of, and the others stand behind these, in the order of the rows. -/
theorem rows_of_examples {registry : Registry W} {config : NamingConfig} {l : Loader W}
    (hconfig : withConfig registry config = .ok l) :
    (∀ (outline : Scenario W) (name : String) (table : Table), (outline.rowNames config name table).Nodup) ∧
      ∀ (events : List Event) (d next : Draft W) (f : Feature W) (label : String) (tags : TagSet) (table : Table)
        (outline : Scenario W), (Draft.builder l.config l.registry).answerAll {} events = .ok d →
        d.feature = some f → d.examples = some (label, tags) → d.table = some table →
        d.outline = some outline → (d.handle l.config l.registry .finishExamples).result = .ok next →
        ∃ (name : String) (rows : List (Scenario W)), label = config.examplesPrefix ++ slugify name ∧
          (outline.expand (.ofTable label tags table) registry).result = .ok rows ∧
          rows.map (Draft.nameOf config) = outline.rowNames config name table ∧
          next.feature = some { f with
            scenarios := f.scenarios.map (Feature.withReplacement (Draft.nameOf config) rows) ++
              (rows.filter fun s => !f.hasName (Draft.nameOf config s)).map fun s =>
                (Draft.nameOf config s, s) } ∧
          (d.handle l.config l.registry .finishExamples).log.replacements d.source =
            rows.countP fun s => f.hasName (Draft.nameOf config s) := by
  unfold withConfig at hconfig
  cases hinvalid : config.invalidSetting? with
  | some setting =>
    rw [hinvalid] at hconfig
    cases hconfig
  | none =>
    rw [hinvalid] at hconfig
    cases hconfig
    refine ⟨Scenario.nodup_rowNames hinvalid, ?_⟩
    intro events d next f label tags table outline hevents hfeature hexamples htable houtline hnext
    have hnamed := Draft.wellNamed_empty.answerAll hevents
    obtain ⟨name, rfl⟩ := hnamed.label label tags hexamples
    have hrows := Draft.expand_of_closeExamples hexamples htable houtline hnext
    have hnames := Scenario.map_nameOf_expand hrows
    obtain ⟨hadded, hwarned⟩ := Draft.closeExamples_of_nodup hfeature (hnamed.names f hfeature) rfl
      (hnames ▸ Scenario.nodup_rowNames hinvalid outline name table) hnext
    exact ⟨name, _, rfl, hrows, hnames, hadded, hwarned⟩

/-- Rows of numbers and of punctuation, the first of which takes the name of a scenario before them. -/
theorem rows_of_examples_numbers :
    let events : List Event :=
      [.startFeature "f", .startScenario "o-1 1 Example_e", .finishScenario, .startOutline "o <n>",
        .finishOutline, .startExamples "e", .startTable ["n"], .tableData ["1"], .tableData ["1 1"],
        .tableData ["?"], .finishTable]
    let table : Table := ⟨["n"], [["1"], ["1 1"], ["?"]]⟩
    let outline : Scenario Unit := .ofTitle "o <n>"
    outline.rowNames {} "e" table =
        ["test_Scenario_o_1_1_Example_e", "test_Scenario_o_1_1_2_Example_e", "test_Scenario_o_3_Example_e"] ∧
      (outline.rowNames {} "e" table).Nodup ∧
      ∃ (l : Loader Unit) (d next : Draft Unit) (f : Feature Unit), withConfig .empty {} = .ok l ∧
        (Draft.builder l.config l.registry).answerAll {} events = .ok d ∧ d.feature = some f ∧
        f.names = ["test_Scenario_o_1_1_Example_e"] ∧
        (d.handle l.config l.registry .finishExamples).result = .ok next ∧
        ∃ rows : List (Scenario Unit), rows.length = 3 ∧
          next.feature = some { f with
            scenarios := f.scenarios.map (Feature.withReplacement (Draft.nameOf {}) rows) ++
              (rows.filter fun s => !f.hasName (Draft.nameOf {} s)).map fun s => (Draft.nameOf {} s, s) } := by
  intro events table outline
  have hconfig : withConfig (.empty : Registry Unit) {} = .ok ⟨.empty, {}⟩ := rfl
  obtain ⟨hnames, hrows⟩ := rows_of_examples hconfig
  -- the draft in front of the end of the block
  let d : Draft Unit := events.foldl (fun d event => (d.handle {} .empty event).result.toOption.getD d) {}
  have hd : (Draft.builder {} .empty).answerAll {} events = .ok d := rfl
  have hends : (d.handle {} .empty .finishExamples).result.toOption.map (fun _ => ()) = some () := by
    decide +kernel
  obtain ⟨next, hnext, -⟩ := Logged.exists_ok_of_map hends
  refine ⟨by decide +kernel, hnames outline "e" table, ⟨.empty, {}⟩, d, next, _, rfl, hd, rfl, rfl, hnext, ?_⟩
  obtain ⟨name, rows, -, -, hnamed, hfeature, -⟩ :=
    hrows events d next _ "Example_e" ∅ table outline hd rfl rfl rfl rfl hnext
  have hlength := congrArg List.length hnamed
  rw [List.length_map, Scenario.rowNames, List.length_map, List.length_zipIdx] at hlength
  exact ⟨rows, hlength, hfeature⟩

end Loader

end Acceptance
