import CaretQuery.Proofs.CommandLine.Flags
import CaretQuery.Proofs.Files.Changing

/-! # What the command line reads of the files

While the command line is read the files are looked at only to tell whether the
value of an option names a directory. File trees in which the same values name
directories let a command line be read alike.
-/
namespace CaretQuery

namespace Files

variable {f g : Files} {text : String}

/-! ## Names of directories -/

theorem foldl_nextPlace_filter (names : List String) (place : List String) :
    (names.filter fun name => name != "" && name != ".").foldl nextPlace place =
      names.foldl nextPlace place := by
  induction names generalizing place with
  | nil => rfl
  | cons name names ih =>
    rw [List.foldl_cons, ← ih]
    by_cases hname : name = "" ∨ name = "."
    · rw [List.filter_cons_of_neg (by rcases hname with rfl | rfl <;> simp)]
      rcases hname with rfl | rfl <;> rfl
    · rw [List.filter_cons_of_pos (by simpa using hname), List.foldl_cons]

theorem isAbsolute_ofText (text : String) :
    (Path.ofText text).isAbsolute = text.startsWith "/" := by
  rw [Bool.eq_iff_iff, String.startsWith_string_iff, Path.isAbsolute, Path.ofText, Path.rootOf]
  split
  next h => simp [h]
  next h => simp [h]
  next h => simp [h]
  next h =>
    cases htext : text.toList with
    | nil => simp
    | cons c cs => simpa using fun hc : '/' = c => h cs (by rw [htext, hc])

theorem placeOf_ofText (files : Files) (text : String) :
    files.placeOf (.ofText text) =
      (Path.pieces text).foldl nextPlace (files.start (text.startsWith "/")) := by
  rw [placeOf, isAbsolute_ofText]
  exact foldl_nextPlace_filter _ _

/-- A walk with names starts in a directory. -/
theorem itemAt?_of_walk_pieces {place last : List String}
    (hwalk : f.walk place (Path.pieces text) = .ok last) : f.itemAt? place = some .directory := by
  cases hpieces : Path.pieces text with
  | nil => exact absurd (List.map_eq_nil_iff.1 hpieces) (Text.splitAt_ne_nil _ _)
  | cons name names =>
    rw [hpieces] at hwalk
    obtain ⟨next, hstep, -⟩ := walk_cons_eq_ok.1 hwalk
    exact (step_eq_ok_iff.1 hstep).2.1

theorem namesDirectory_iff :
    f.namesDirectory text = true ↔
      (text ≠ "" ∧ text.utf8ByteSize ≤ maxPathBytes) ∧
        ∃ place, f.walk (f.start (text.startsWith "/")) (Path.pieces text) = .ok place ∧
          f.itemAt? place = some .directory := by
  rw [namesDirectory, Bool.and_eq_true, Bool.and_eq_true, bne_iff_ne, decide_eq_true_iff]
  refine and_congr_right fun _ => ?_
  cases hwalk : f.walk (f.start (text.startsWith "/")) (Path.pieces text) with
  | error e => simp [Except.map]
  | ok place =>
    have hsome : (f.itemAt? place).isSome :=
      isSome_of_walk (by rw [itemAt?_of_walk_pieces hwalk]; rfl) hwalk
    simp only [Except.map, entryOf, Except.ok.injEq, exists_eq_left', itemAt?, Entries.itemAt?]
    rw [itemAt?, Entries.itemAt?] at hsome
    cases hentry : f.root.entryAt? place with
    | none => simp [hentry] at hsome
    | some e => cases e <;> simp [Entry.item]

/-- A text names no directory unless there is one where it leads as a path. -/
theorem namesDirectory_eq_false (hplace : f.itemAt? (f.placeOf (.ofText text)) ≠ some .directory) :
    f.namesDirectory text = false := by
  rw [← Bool.not_eq_true, namesDirectory_iff]
  rintro ⟨-, place, hwalk, hdirectory⟩
  rw [placeOf_ofText, ← (walk_eq_ok hwalk).1] at hplace
  exact hplace hdirectory

end Files

namespace CommandLine

variable {f g : Files} {arguments : List String} {checks : List Check} {s : Scan}

/-! ## Checks -/

/-- A fault of an option is what one check finds in its value, whatever the files are. -/
theorem faultOf_cases (checks : List Check) (s : Scan) (name : String) :
    (∀ files, faultOf files checks s name = none) ∨
      ∃ check ∈ checks, ∃ value ∈ s.value? check.option,
        ∀ files, faultOf files checks s name = check.test files value := by
  simp only [faultOf]
  cases hcheck : checks.find? fun check => check.option == name with
  | none => exact .inl fun files => rfl
  | some check =>
    obtain rfl : check.option = name := by simpa using List.find?_some hcheck
    cases hvalue : s.value? check.option with
    | none => exact .inl fun files => by simp
    | some value =>
      exact .inr ⟨check, List.mem_of_find?_eq_some hcheck, value, hvalue,
        fun files => by simp⟩

/-- Checks that find the same in every value find the same in a scan. -/
theorem firstFault_congr (htests : ∀ check ∈ checks, ∀ value ∈ s.value? check.option,
    check.test f value = check.test g value) : firstFault f checks s = firstFault g checks s := by
  rw [firstFault_eq_findSome?, firstFault_eq_findSome?]
  congr 1
  funext name
  rcases faultOf_cases checks s name with hnone | ⟨check, hcheck, value, hvalue, htest⟩
  · rw [hnone, hnone]
  · rw [htest, htest, htests check hcheck value hvalue]

theorem runChecks_congr (htests : ∀ check ∈ checks, ∀ value ∈ s.value? check.option,
    check.test f value = check.test g value) : runChecks f checks s = runChecks g checks s := by
  rw [runChecks, runChecks, firstFault_congr htests]

theorem test_fileCheck_congr {option value : String} {dashAllowed : Bool}
    (hvalue : f.namesDirectory value = g.namesDirectory value) :
    (fileCheck option dashAllowed).test f value = (fileCheck option dashAllowed).test g value := by
  simp only [fileCheck, hvalue]

/-- The options of the whole run whose values must not name directories. -/
def fileOptions : List String := ["--config", "--log-file"]

theorem readGlobals_congr (hvalues : ∀ s, Scan.scan globalSpecs false arguments = .ok s →
    ∀ option ∈ fileOptions, ∀ value ∈ s.value? option,
      f.namesDirectory value = g.namesDirectory value) :
    readGlobals f arguments = readGlobals g arguments := by
  cases hscan : Scan.scan globalSpecs false arguments with
  | error e => rw [readGlobals, readGlobals, hscan]; rfl
  | ok s =>
    have hvalues := hvalues s hscan
    have hchecks : runChecks f globalChecks s = runChecks g globalChecks s := by
      refine runChecks_congr fun check hcheck value hvalue => ?_
      simp only [globalChecks, List.mem_cons, List.not_mem_nil, or_false] at hcheck
      rcases hcheck with rfl | rfl | rfl
      · rfl
      · exact test_fileCheck_congr (hvalues "--config" (by decide) value hvalue)
      · exact test_fileCheck_congr (hvalues "--log-file" (by decide) value hvalue)
    rw [readGlobals, readGlobals, hscan]
    simp only [bind, Except.bind, hchecks]

theorem runChecks_eq_ok
    (htests : ∀ check ∈ checks, ∀ value ∈ s.value? check.option, check.test f value = none) :
    runChecks f checks s = .ok () := by
  have hnone : firstFault f checks s = none := by
    rw [firstFault_eq_findSome?, List.findSome?_eq_none_iff]
    intro name _
    rcases faultOf_cases checks s name with hnone | ⟨check, hcheck, value, hvalue, htest⟩
    · exact hnone f
    · rw [htest, htests check hcheck value hvalue]
  rw [runChecks, hnone]

/-- Options that ask for no text, leave the format and name no directories are in order. -/
theorem readGlobals_of_scan (hscan : Scan.scan globalSpecs false arguments = .ok s)
    (hwish : s.first? ["--help", "--version"] = none) (hformat : s.value? "--output" = none)
    (hvalues : ∀ option ∈ s.given, f.namesDirectory option.value = false) :
    readGlobals f arguments = .ok (.run (.ofScan s, s.rest)) := by
  have hvalues {name value : String} (hvalue : value ∈ s.value? name) :
      f.namesDirectory value = false := by
    obtain ⟨option, hoption, rfl⟩ := List.mem_map.1 (List.mem_of_getLast? hvalue)
    exact hvalues option (List.mem_filter.1 hoption).1
  have hchecks : runChecks f globalChecks s = .ok () := by
    refine runChecks_eq_ok fun check hcheck value hvalue => ?_
    simp only [globalChecks, List.mem_cons, List.not_mem_nil, or_false] at hcheck
    rcases hcheck with rfl | rfl | rfl
    · cases hformat.symm.trans hvalue
    · simp [fileCheck, hvalues hvalue]
    · simp [fileCheck, hvalues hvalue]
  rw [readGlobals, hscan]
  simp only [bind, Except.bind, hwish, hchecks]

/-- The settings of a run are those of the options. -/
theorem globals_of_read {g : Globals} {rest : List String}
    (hread : readGlobals f arguments = .ok (.run (g, rest)))
    (hscan : Scan.scan globalSpecs false arguments = .ok s) : g = .ofScan s := by
  rw [readGlobals, hscan] at hread
  simp only [bind, Except.bind] at hread
  split at hread
  · cases hread
  · cases hread
  · split at hread
    · cases hread
    · cases hread
      rfl

/-! ## Commands -/

theorem CommandForm.read_congr {form : CommandForm} {format : Format}
    (htests : ∀ check ∈ form.checks, ∀ value, check.test f value = check.test g value) :
    form.read f format arguments = form.read g format arguments := by
  have hchecks (s : Scan) : runChecks f (form.checks ++ [formatCheck]) s =
      runChecks g (form.checks ++ [formatCheck]) s := by
    refine runChecks_congr fun check hcheck value _ => ?_
    rcases List.mem_append.1 hcheck with hcheck | hcheck
    · exact htests check hcheck value
    · rw [List.mem_singleton.1 hcheck]
      rfl
  simp only [CommandForm.read, hchecks]

/-- The commands on the configuration look at no files while they are read. -/
theorem readConfigCommand_congr (format : Format) :
    readConfigCommand f format arguments = readConfigCommand g format arguments := by
  have hform {name : String} {form : CommandForm} (h : configCommand? name = some form) :
      form.checks = [] := by
    unfold configCommand? at h
    split at h <;> cases h <;> rfl
  rw [readConfigCommand, readConfigCommand]
  split
  · rfl
  · split
    · rfl
    · rfl
    · rfl
    · rfl
    next name rest _ =>
      cases hname : configCommand? name with
      | none => rfl
      | some form => exact CommandForm.read_congr (by simp [hform hname])

/-- A build is read alike where the same texts name directories. -/
theorem read_build_congr (format : Format)
    (hvalues : ∀ value, f.namesDirectory value = g.namesDirectory value) :
    CommandForm.build.read f format arguments = CommandForm.build.read g format arguments := by
  refine CommandForm.read_congr fun check hcheck value => ?_
  simp only [CommandForm.build, buildChecks, List.mem_cons, List.not_mem_nil, or_false] at hcheck
  rcases hcheck with rfl | rfl
  · exact test_fileCheck_congr (hvalues value)
  · rfl

/-- A command that is read is one of its form. -/
theorem command_of_read {form : CommandForm} {format : Format} {i : Invocation}
    (hread : form.read f format arguments = .ok (.run i)) : ∃ s, i.command = form.command s := by
  rw [CommandForm.read] at hread
  cases hscan : Scan.scan form.allSpecs true arguments with
  | error e => simp [hscan, bind, Except.bind] at hread
  | ok s =>
    simp only [hscan, bind, Except.bind] at hread
    split at hread
    · cases hread
    · split at hread
      · cases hread
      · split at hread
        · cases hread
          exact ⟨s, rfl⟩
        · cases hread

/-- A name that is found stands for a topic, whatever the files are. -/
theorem named?_of_findTopic {name : String} {topic : Topic}
    (hfind : findTopic f name arguments = .ok (.run topic)) : Topic.named? name = some topic := by
  rw [findTopic] at hfind
  cases hnamed : Topic.named? name with
  | some other =>
    simp only [hnamed] at hfind
    cases hfind
    rfl
  | none =>
    simp only [hnamed, unknownName] at hfind
    split at hfind
    · split at hfind <;> cases hfind
    · cases hfind

/-- The name stands for a command as it does on other files. -/
theorem findTopic_of_named? {name : String} {topic : Topic}
    (hnamed : Topic.named? name = some topic) (arguments : List String) :
    findTopic f name arguments = .ok (.run topic) := by
  rw [findTopic, hnamed]

/-- Only the topic of the configuration has commands that create one. -/
theorem eq_config_of_read {name : String} {topic : Topic} {format format' : Format} {force : Bool}
    (hnamed : Topic.named? name = some topic)
    (hread : topic.read f format arguments = .ok (.run ⟨.configInit force, format'⟩)) :
    topic = .config := by
  unfold Topic.named? at hnamed
  split at hnamed
  case h_3 => exact (Option.some.inj hnamed).symm
  case h_5 => cases hnamed
  all_goals
    obtain rfl := Option.some.inj hnamed
    obtain ⟨s, hcommand⟩ := command_of_read hread
    cases hcommand

end CommandLine
end CaretQuery
