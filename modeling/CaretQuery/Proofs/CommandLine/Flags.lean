import CaretQuery.CommandLine.Run
import Mathlib

/-! # Options that say how much is shown

Quiet and the options for details may be added anywhere among the options of the
whole run. Everything else that is read from the command line stays as it is:
the other options with their values, the faults found in them, and the command
with its arguments.
-/
namespace CaretQuery.CommandLine

variable {files : Files} {argument : String} {arguments longer : List String}

/-- The options that only say how much is shown. -/
def diagnosticNames : List String := ["--quiet", "-v"]

/-- The arguments that give such options, the long one or some short ones written together. -/
inductive IsDiagnostic : String → Prop
  | quiet : IsDiagnostic "--quiet"
  | letters {c : Char} {cs : List Char}
      (hletters : ∀ letter ∈ c :: cs, letter = 'q' ∨ letter = 'v') :
      IsDiagnostic (String.ofList ('-' :: c :: cs))

/-- An argument among the options of the whole run is read as options. -/
structure IsOption (argument : String) (reading : Scan.Reading) : Prop where
  looksLikeOption : Scan.looksLikeOption argument = true
  ne_dashes : argument ≠ "--"
  readOption_eq : Scan.readOption globalSpecs argument = .ok reading

/-- The second list of arguments is the first one with diagnostic options added
among the options of the whole run. An option stays together with its value. -/
inductive AddsDiagnostics : List String → List String → Prop
  | refl (arguments : List String) : AddsDiagnostics arguments arguments
  | added {argument : String} {arguments longer : List String} (hadded : IsDiagnostic argument)
      (hrest : AddsDiagnostics arguments longer) : AddsDiagnostics arguments (argument :: longer)
  | option {argument : String} {options : List Given} {arguments longer : List String}
      (hoption : IsOption argument (.complete options))
      (hrest : AddsDiagnostics arguments longer) :
      AddsDiagnostics (argument :: arguments) (argument :: longer)
  | valued {argument name value : String} {arguments longer : List String}
      (hoption : IsOption argument (.awaiting name)) (hrest : AddsDiagnostics arguments longer) :
      AddsDiagnostics (argument :: value :: arguments) (argument :: value :: longer)

/-! ## Reading an argument -/

theorem splitValue_of_notMem (h : '=' ∉ argument.toList) :
    Scan.splitValue argument = (argument, none) := by
  have hbefore : argument.toList.takeWhile (fun c => c != '=') = argument.toList := by
    rw [List.takeWhile_eq_self_iff]
    intro c hc
    simpa using fun heq : c = '=' => h (heq ▸ hc)
  rw [Scan.splitValue]
  simp only [hbefore, List.drop_length]

theorem startsWith_dashes {c : Char} {cs : List Char} (h : c ≠ '-') :
    (String.ofList ('-' :: c :: cs)).startsWith "--" = false := by
  rw [← Bool.not_eq_true, String.startsWith_string_iff]
  simpa using h.symm

/-- Short options written together are read one by one. -/
theorem readOption_short {specs : List OptionSpec} {c : Char} {cs : List Char} (hdash : c ≠ '-')
    (hvalue : '=' ∉ c :: cs) :
    Scan.readOption specs (String.ofList ('-' :: c :: cs)) =
      (Scan.readShort specs (c :: cs)).map .complete := by
  have hsplit : Scan.splitValue (String.ofList ('-' :: c :: cs)) =
      (String.ofList ('-' :: c :: cs), none) := splitValue_of_notMem (by simpa using hvalue)
  have hunknown : specs.find? (fun spec =>
      spec.name == String.ofList ('-' :: c :: cs) && false) = none := by simp
  rw [Scan.readOption, hsplit]
  simp only [startsWith_dashes hdash, hunknown, Bool.false_eq_true, if_false,
    String.toList_ofList, List.drop_succ_cons, List.drop_zero]

theorem readShort_diagnostic {cs : List Char} (h : ∀ c ∈ cs, c = 'q' ∨ c = 'v') :
    ∃ options, Scan.readShort globalSpecs cs = .ok options ∧
      ∀ option ∈ options, option.name ∈ diagnosticNames := by
  induction cs with
  | nil => exact ⟨[], rfl, nofun⟩
  | cons c cs ih =>
    rw [List.forall_mem_cons] at h
    obtain ⟨options, hread, hnames⟩ := ih h.2
    rw [Scan.readShort, hread]
    rcases h.1 with rfl | rfl
    · exact ⟨⟨"--quiet", ""⟩ :: options, rfl, List.forall_mem_cons.2 ⟨by decide, hnames⟩⟩
    · exact ⟨⟨"-v", ""⟩ :: options, rfl, List.forall_mem_cons.2 ⟨by decide, hnames⟩⟩

/-- A diagnostic argument is read as diagnostic options. -/
theorem IsDiagnostic.exists_isOption (h : IsDiagnostic argument) :
    ∃ options, IsOption argument (.complete options) ∧
      ∀ option ∈ options, option.name ∈ diagnosticNames := by
  cases h with
  | quiet => exact ⟨[⟨"--quiet", ""⟩], ⟨by cbv, by decide, by cbv⟩, by decide⟩
  | @letters c cs hletters =>
    obtain ⟨options, hread, hnames⟩ := readShort_diagnostic hletters
    have hdash : c ≠ '-' := by
      rcases hletters c List.mem_cons_self with rfl | rfl <;> decide
    have hvalue : '=' ∉ c :: cs := fun hmem => by
      rcases hletters '=' hmem with h | h <;> cases h
    refine ⟨options, ⟨?_, ?_, ?_⟩, hnames⟩
    · rw [Scan.looksLikeOption, Bool.and_eq_true, String.startsWith_string_iff, bne_iff_ne]
      refine ⟨by simp, fun heq => ?_⟩
      simpa using congrArg String.toList heq
    · intro heq
      simpa [hdash] using congrArg String.toList heq
    · rw [readOption_short hdash hvalue, hread]
      rfl

/-! ## Scanning -/

/-- Results of the same kind: the same failure, or values that agree. -/
inductive Alike {ε α : Type} (agree : α → α → Prop) : Except ε α → Except ε α → Prop
  | error (e : ε) : Alike agree (.error e) (.error e)
  | ok {a b : α} (hagree : agree a b) : Alike agree (.ok a) (.ok b)

theorem Alike.map {ε α β : Type} {agree : α → α → Prop} {agree' : β → β → Prop} {f g : α → β}
    {x y : Except ε α} (h : Alike agree x y) (hf : ∀ {a b}, agree a b → agree' (f a) (g b)) :
    Alike agree' (x.map f) (y.map g) := by
  cases h with
  | error e => exact .error e
  | ok hagree => exact .ok (hf hagree)

theorem Alike.map_right {ε α : Type} {agree : α → α → Prop} {g : α → α} {x y : Except ε α}
    (h : Alike agree x y) (hg : ∀ {a b}, agree a b → agree a (g b)) : Alike agree x (y.map g) := by
  cases h with
  | error e => exact .error e
  | ok hagree => exact .ok (hg hagree)

theorem scan_of_complete {specs : List OptionSpec} {options : List Given}
    (hlooks : Scan.looksLikeOption argument = true) (hdashes : argument ≠ "--")
    (hread : Scan.readOption specs argument = .ok (.complete options)) (interspersed : Bool)
    (arguments : List String) :
    Scan.scan specs interspersed (argument :: arguments) =
      (Scan.scan specs interspersed arguments).map (Scan.addOptions options) := by
  rw [Scan.scan.eq_def]
  simp only [hdashes, hlooks, hread, if_false, Bool.not_true, Bool.false_eq_true]

theorem scan_of_awaiting {specs : List OptionSpec} {name : String}
    (hlooks : Scan.looksLikeOption argument = true) (hdashes : argument ≠ "--")
    (hread : Scan.readOption specs argument = .ok (.awaiting name)) (interspersed : Bool)
    (value : String) (arguments : List String) :
    Scan.scan specs interspersed (argument :: value :: arguments) =
      (Scan.scan specs interspersed arguments).map (Scan.addOptions [⟨name, value⟩]) := by
  rw [Scan.scan.eq_def]
  simp only [hdashes, hlooks, hread, if_false, Bool.not_true, Bool.false_eq_true]

theorem IsOption.scan_complete {options : List Given} (h : IsOption argument (.complete options))
    (arguments : List String) :
    Scan.scan globalSpecs false (argument :: arguments) =
      (Scan.scan globalSpecs false arguments).map (Scan.addOptions options) :=
  scan_of_complete h.looksLikeOption h.ne_dashes h.readOption_eq false arguments

theorem IsOption.scan_awaiting {name : String} (h : IsOption argument (.awaiting name))
    (value : String) (arguments : List String) :
    Scan.scan globalSpecs false (argument :: value :: arguments) =
      (Scan.scan globalSpecs false arguments).map (Scan.addOptions [⟨name, value⟩]) :=
  scan_of_awaiting h.looksLikeOption h.ne_dashes h.readOption_eq false value arguments

namespace Scan

/-- The options of a scan but for the diagnostic ones. -/
def effective (s : Scan) : List Given :=
  s.given.filter fun option => !diagnosticNames.contains option.name

theorem effective_addOptions (options : List Given) (s : Scan) :
    (s.addOptions options).effective =
      (options.filter fun option => !diagnosticNames.contains option.name) ++ s.effective :=
  List.filter_append ..

/-- Two scans differ in diagnostic options only. -/
structure Agrees (s t : Scan) : Prop where
  effective : s.effective = t.effective
  rest : s.rest = t.rest

theorem Agrees.addOptions {s t : Scan} (h : s.Agrees t) (options : List Given) :
    (s.addOptions options).Agrees (t.addOptions options) :=
  ⟨by rw [effective_addOptions, effective_addOptions, h.effective], h.rest⟩

theorem Agrees.addDiagnostic {s t : Scan} (h : s.Agrees t) {options : List Given}
    (hnames : ∀ option ∈ options, option.name ∈ diagnosticNames) :
    s.Agrees (t.addOptions options) := by
  have hnone : (options.filter fun option => !diagnosticNames.contains option.name) = [] := by
    rw [List.filter_eq_nil_iff]
    intro option hoption
    simpa using hnames option hoption
  exact ⟨by rw [effective_addOptions, hnone, List.nil_append, h.effective], h.rest⟩

end Scan

/-- Added diagnostic options change nothing else in a scan. -/
theorem AddsDiagnostics.scan (h : AddsDiagnostics arguments longer) :
    Alike Scan.Agrees (Scan.scan globalSpecs false arguments)
      (Scan.scan globalSpecs false longer) := by
  induction h with
  | refl arguments =>
    cases Scan.scan globalSpecs false arguments with
    | error e => exact .error e
    | ok s => exact .ok ⟨rfl, rfl⟩
  | added hadded hrest ih =>
    obtain ⟨options, hoption, hnames⟩ := hadded.exists_isOption
    rw [hoption.scan_complete]
    exact ih.map_right fun hagree => hagree.addDiagnostic hnames
  | option hoption hrest ih =>
    rw [hoption.scan_complete, hoption.scan_complete]
    exact ih.map fun hagree => hagree.addOptions _
  | valued hoption hrest ih =>
    rw [hoption.scan_awaiting, hoption.scan_awaiting]
    exact ih.map fun hagree => hagree.addOptions _

/-! ## What is read from a scan -/

namespace Scan.Agrees

variable {s t : Scan} {name : String}

theorem filter_given (h : s.Agrees t) {p : Given → Bool}
    (hp : ∀ option, p option = true → option.name ∉ diagnosticNames) :
    s.given.filter p = t.given.filter p := by
  have heffective (u : Scan) : u.effective.filter p = u.given.filter p := by
    rw [Scan.effective, List.filter_filter]
    apply List.filter_congr
    intro option _
    cases hoption : p option with
    | false => rfl
    | true => simpa using hp option hoption
  rw [← heffective, ← heffective, h.effective]

theorem values_eq (h : s.Agrees t) (hname : name ∉ diagnosticNames) :
    s.values name = t.values name := by
  rw [Scan.values, Scan.values, h.filter_given]
  intro option hoption
  simpa [(beq_iff_eq.1 hoption)] using hname

theorem value?_eq (h : s.Agrees t) (hname : name ∉ diagnosticNames) :
    s.value? name = t.value? name := by
  rw [Scan.value?, Scan.value?, h.values_eq hname]

theorem find?_given (h : s.Agrees t) {p : Given → Bool}
    (hp : ∀ option, p option = true → option.name ∉ diagnosticNames) :
    s.given.find? p = t.given.find? p := by
  rw [← List.head?_filter, ← List.head?_filter, h.filter_given hp]

theorem has_eq (h : s.Agrees t) (hname : name ∉ diagnosticNames) : s.has name = t.has name := by
  rw [Scan.has, Scan.has, ← List.isSome_find?, ← List.isSome_find?, h.find?_given]
  intro option hoption
  simpa [beq_iff_eq.1 hoption] using hname

theorem first?_eq (h : s.Agrees t) {names : List String}
    (hnames : ∀ name ∈ names, name ∉ diagnosticNames) : s.first? names = t.first? names := by
  rw [Scan.first?, Scan.first?, List.find?_map, List.find?_map, h.find?_given]
  intro option hoption
  exact hnames option.name (by simpa using hoption)

end Scan.Agrees

/-- Elements that give nothing may be left out of a search. -/
theorem findSome?_filter {α β : Type} {p : α → Bool} {f : α → Option β}
    (hf : ∀ a, p a = false → f a = none) (as : List α) :
    (as.filter p).findSome? f = as.findSome? f := by
  induction as with
  | nil => rfl
  | cons a as ih =>
    cases ha : p a with
    | true => rw [List.filter_cons_of_pos ha, List.findSome?_cons, List.findSome?_cons, ih]
    | false =>
      rw [List.filter_cons_of_neg (by simp [ha]), ih, List.findSome?_cons, hf a ha]

/-- Repeated elements may be left out of a search. -/
theorem findSome?_eraseDups {β : Type} (f : String → Option β) (names : List String) :
    names.eraseDups.findSome? f = names.findSome? f := by
  match names with
  | [] => rfl
  | name :: names =>
    rw [List.eraseDups_cons, List.findSome?_cons, List.findSome?_cons]
    cases hname : f name with
    | some _ => rfl
    | none =>
      have hshorter := List.length_filter_le (fun other => !other == name) names
      rw [findSome?_eraseDups f (names.filter fun other => !other == name), findSome?_filter]
      intro other hother
      have hsame : other = name := by simpa using hother
      rw [hsame, hname]
termination_by names.length
decreasing_by simpa using Nat.lt_succ_of_le hshorter

/-- The fault that the checks find in the value of one option. -/
def faultOf (files : Files) (checks : List Check) (s : Scan) (name : String) :
    Option UsageError :=
  (checks.find? fun check => check.option == name).bind fun check =>
    (s.value? name).bind (check.test files)

theorem firstFault_eq_findSome? (files : Files) (checks : List Check) (s : Scan) :
    firstFault files checks s = s.names.findSome? (faultOf files checks s) := rfl

/-- Checks of other options find the same fault. -/
theorem Scan.Agrees.firstFault_eq {s t : Scan} (h : s.Agrees t) {checks : List Check}
    (hchecks : ∀ check ∈ checks, check.option ∉ diagnosticNames) :
    firstFault files checks s = firstFault files checks t := by
  have hnone (u : Scan) {name : String} (hname : name ∈ diagnosticNames) :
      faultOf files checks u name = none := by
    have hunchecked : checks.find? (fun check => check.option == name) = none := by
      rw [List.find?_eq_none]
      intro check hcheck hoption
      exact hchecks check hcheck (beq_iff_eq.1 hoption ▸ hname)
    rw [faultOf, hunchecked, Option.bind_none]
  have hsame : faultOf files checks s = faultOf files checks t := by
    funext name
    by_cases hname : name ∈ diagnosticNames
    · rw [hnone s hname, hnone t hname]
    · rw [faultOf, faultOf, h.value?_eq hname]
  have heffective (u : Scan) : firstFault files checks u =
      u.effective.findSome? (faultOf files checks u ∘ Given.name) := by
    rw [firstFault_eq_findSome?, Scan.names, findSome?_eraseDups, List.findSome?_map,
      Scan.effective, findSome?_filter]
    intro option hoption
    exact hnone u (by simpa using hoption)
  rw [heffective, heffective, hsame, h.effective]

/-! ## The options of the whole run -/

/-- The same wish: a text, or runs under settings that differ in quiet and verbosity only. -/
inductive SameWish : Wish (Globals × List String) → Wish (Globals × List String) → Prop
  | help (text : String) : SameWish (.help text) (.help text)
  | version : SameWish .version .version
  | run (g : Globals) (quiet : Bool) (verbosity : Nat) (arguments : List String) :
      SameWish (.run (g, arguments)) (.run ({ g with quiet, verbosity }, arguments))

theorem Scan.Agrees.globals_eq {s t : Scan} (h : s.Agrees t) :
    Globals.ofScan t =
      { Globals.ofScan s with quiet := t.has "--quiet", verbosity := t.count "-v" } := by
  have hjson : s.has "--json" = t.has "--json" := h.has_eq (by decide)
  have houtput : s.value? "--output" = t.value? "--output" := h.value?_eq (by decide)
  have hconfig : s.value? "--config" = t.value? "--config" := h.value?_eq (by decide)
  have hfile : s.value? "--log-file" = t.value? "--log-file" := h.value?_eq (by decide)
  have hnofile : s.has "--no-log-file" = t.has "--no-log-file" := h.has_eq (by decide)
  rw [Globals.ofScan, Globals.ofScan, hjson, houtput, hconfig, hfile, hnofile]

theorem Scan.Agrees.runChecks_eq {s t : Scan} (h : s.Agrees t) :
    runChecks files globalChecks s = runChecks files globalChecks t := by
  rw [runChecks, runChecks, h.firstFault_eq (by decide)]

/-- Added diagnostic options leave everything else that is asked for as it is. -/
theorem AddsDiagnostics.readGlobals (files : Files) (h : AddsDiagnostics arguments longer) :
    Alike SameWish (readGlobals files arguments) (readGlobals files longer) := by
  have hscan := h.scan
  rw [CommandLine.readGlobals, CommandLine.readGlobals]
  generalize Scan.scan globalSpecs false arguments = x at hscan
  generalize Scan.scan globalSpecs false longer = y at hscan
  cases hscan with
  | error e => exact .error e
  | @ok s t hagree =>
    simp only [bind, Except.bind]
    rw [hagree.first?_eq (by decide), hagree.runChecks_eq, hagree.globals_eq, hagree.rest]
    split
    next => exact .ok (.help globalHelp)
    next => exact .ok .version
    next =>
      cases runChecks files globalChecks t with
      | error e => exact .error e
      | ok => exact .ok (.run _ _ _ _)

end CaretQuery.CommandLine
