import CaretQuery.CommandLine.Run
import CaretQuery.Proofs.Json.RoundTrip
import CaretQuery.Proofs.Text.Utf8
import Mathlib

/-! # What standard output takes

A command ends with its outcome or its failure if what is written holds no lone
surrogate, and in any case if it reads no JSON. A lone surrogate in a text of a
report is in the line of the report, so a query can be written if its report can.
-/
namespace CaretQuery

/-! ## Lone surrogates in JSON -/

namespace Json

variable {c : Char} {s key : String} {value : Json} {members : List (String × Json)}

/-- A lone surrogate is written as it is. -/
theorem escapeChar_of_isLone (hlone : Text.isLone c = true) : escapeChar c = [c] := by
  have hlarge : 0xDD800 ≤ c.toNat := by
    rw [Text.isLone, Bool.and_eq_true, decide_eq_true_eq] at hlone
    exact hlone.1
  have hne {d : Char} (hd : d.toNat < 0xDD800) : c ≠ d := by
    rintro rfl
    omega
  simp only [escapeChar, hne (d := '"') (by decide), hne (d := '\\') (by decide),
    hne (d := '\n') (by decide), hne (d := '\r') (by decide), hne (d := '\t') (by decide),
    hne (d := '\x08') (by decide), hne (d := '\x0c') (by decide), or_self, if_false,
    show ¬c.toNat < 32 by omega]

theorem mem_quoted (hescape : escapeChar c = [c]) (hc : c ∈ s.toList) : c ∈ (quoted s).toList := by
  rw [quoted, String.toList_ofList, quotedChars]
  refine List.mem_append_left _ (List.mem_cons_of_mem _ (List.mem_flatMap.2 ⟨c, hc, ?_⟩))
  rw [hescape]
  exact List.mem_singleton_self c

theorem mem_intercalate {text : String} {texts : List String} (htext : text ∈ texts)
    (hc : c ∈ text.toList) : c ∈ (", ".intercalate texts).toList := by
  induction texts with
  | nil => cases htext
  | cons first texts ih =>
    cases texts with
    | nil =>
      obtain rfl := List.mem_singleton.1 htext
      rwa [String.intercalate_singleton]
    | cons next texts =>
      rw [toList_intercalate, List.mem_append]
      rcases List.mem_cons.1 htext with rfl | htext
      · exact .inl hc
      · exact .inr (List.mem_cons_of_mem _ (List.mem_cons_of_mem _ (ih htext)))

theorem mem_write_of_mem_object (hmember : (key, value) ∈ members) (hc : c ∈ value.write.toList) :
    c ∈ (object members).write.toList := by
  have hwritten : quoted key ++ ": " ++ value.write ∈ writeMembers members := by
    induction members with
    | nil => cases hmember
    | cons first members ih =>
      rw [writeMembers, List.mem_cons]
      rcases List.mem_cons.1 hmember with rfl | hmember
      · exact .inl rfl
      · exact .inr (ih hmember)
  rw [toList_write_object]
  refine List.mem_cons_of_mem _ (List.mem_append_left _ (mem_intercalate hwritten ?_))
  rw [String.toList_append]
  exact List.mem_append_right _ hc

end Json

namespace CommandLine

variable {display : Display} {heading : Heading} {result : Except Failure Outcome}
  {text : String} {output : Output}

/-- What needs no escape stands in the report of a query as it stands in the query. -/
theorem mem_line_of_query {r : Report} {query : Query} {c : Char}
    (hdata : r.data = queryData query) (hescape : Json.escapeChar c = [c])
    (hc : c ∈ query.text.toList) : c ∈ r.line.toList := by
  have hquery : c ∈ (queryData query).write.toList :=
    Json.mem_write_of_mem_object List.mem_cons_self (Json.mem_quoted hescape hc)
  have hreport : c ∈ r.toJson.write.toList := by
    rw [Report.toJson, hdata]
    exact Json.mem_write_of_mem_object
      (List.mem_cons_of_mem _ (List.mem_cons_of_mem _ List.mem_cons_self)) hquery
  rw [Report.line, String.toList_append]
  exact List.mem_append_left _ hreport

/-- A query can be written if the report of it can. -/
theorem isEncodable_of_report {r : Report} {query : Query} (hdata : r.data = queryData query)
    (h : Text.isEncodable r.line = true) : Text.isEncodable query.text = true := by
  rw [Text.isEncodable, List.all_eq_true] at h ⊢
  intro c hc
  rw [Bool.not_eq_true']
  by_contra hlone
  rw [Bool.not_eq_false] at hlone
  have hline := h c (mem_line_of_query hdata (Json.escapeChar_of_isLone hlone) hc)
  simp [hlone] at hline

/-- A report cannot be written if the clause in its details holds a lone surrogate. -/
theorem isEncodable_report_of_clause {failure : Failure} {details : List (String × Json)}
    {c : Char} {s : String} (hdetails : failure.info.details = some details)
    (hclause : ("clause", .str s) ∈ details) (hc : c ∈ s.toList) (hlone : Text.isLone c = true) :
    Text.isEncodable (heading.failure failure).line = false := by
  have hwritten : c ∈ (Json.object details).write.toList :=
    Json.mem_write_of_mem_object hclause (Json.mem_quoted (Json.escapeChar_of_isLone hlone) hc)
  have herror : c ∈ failure.info.toJson.write.toList := by
    rw [ErrorInfo.toJson, hdetails]
    exact Json.mem_write_of_mem_object (List.mem_cons_of_mem _ (List.mem_cons_of_mem _
      (List.mem_cons_of_mem _ List.mem_cons_self))) hwritten
  have hreport : c ∈ (heading.failure failure).toJson.write.toList := by
    rw [Report.toJson]
    exact Json.mem_write_of_mem_object (List.mem_of_mem_getLast? rfl) herror
  rw [Text.isEncodable, List.all_eq_false]
  refine ⟨c, ?_, by simp [hlone]⟩
  rw [Report.line, String.toList_append]
  exact List.mem_append_left _ hreport

/-! ## Ends that are written -/

theorem writeFault?_plain_eq_none_iff : heading.writeFault? (.plain text) = none ↔
    (heading.readsJson = true → Text.isEncodable text = true) := by
  rw [Heading.writeFault?]
  split
  next hjson => simp [hjson, Text.Utf8.encodeFault?_eq_none_iff]
  next hjson => simp [hjson]

theorem finish_eq_conclude
    (h : heading.writeFault? (conclude display heading result).stdout = none) :
    finish display heading result = conclude display heading result := by
  simp only [finish, h]

theorem finish_of_plain (hstdout : (conclude display heading result).stdout = .plain text)
    (h : heading.readsJson = true → Text.isEncodable text = true) :
    finish display heading result = conclude display heading result := by
  apply finish_eq_conclude
  rw [hstdout, writeFault?_plain_eq_none_iff]
  exact h

/-- People are shown every failure, since nothing of it goes to standard output. -/
theorem finish_failure_of_table (h : display.format = .table) (heading : Heading)
    (failure : Failure) :
    finish display heading (.error failure) = conclude display heading (.error failure) :=
  finish_of_plain (by rw [conclude, fail, h]) fun _ => rfl

/-- Nothing is written of a failure whose report holds a lone surrogate. -/
theorem finish_eq_crashed (hjson : heading.readsJson = true)
    (hfailed : (conclude display heading result).failed = true)
    (hstdout : (conclude display heading result).stdout = .plain text)
    (htext : Text.isEncodable text = false) : finish display heading result = crashed := by
  cases hfault : heading.writeFault? (conclude display heading result).stdout with
  | none =>
    rw [hstdout, writeFault?_plain_eq_none_iff] at hfault
    cases htext.symm.trans (hfault hjson)
  | some fault => simp only [finish, hfault, hfailed, if_true]

/-- What a command that reads JSON has to write holds a lone surrogate, so it exits with 1. -/
structure Finished.IsUnwritten (display : Display) (heading : Heading)
    (result : Except Failure Outcome) (finished : Finished) : Prop where
  readsJson : heading.readsJson = true
  stdout : ∃ text, (conclude display heading result).stdout = .plain text ∧
    Text.isEncodable text = false
  exitCode : finished.exitCode = 1

theorem finish_cases (display : Display) (heading : Heading) (result : Except Failure Outcome) :
    finish display heading result = conclude display heading result ∨
      (finish display heading result).IsUnwritten display heading result := by
  cases hfault : heading.writeFault? (conclude display heading result).stdout with
  | none => exact .inl (finish_eq_conclude hfault)
  | some fault =>
    right
    cases hstdout : (conclude display heading result).stdout with
    | screen lines => simp [hstdout, Heading.writeFault?] at hfault
    | plain text =>
      have hlost : ¬(heading.readsJson = true → Text.isEncodable text = true) := by
        rw [← writeFault?_plain_eq_none_iff, ← hstdout, hfault]
        simp
      obtain ⟨hjson, htext⟩ := Classical.not_imp.1 hlost
      refine ⟨hjson, ⟨text, hstdout, Bool.eq_false_iff.2 htext⟩, ?_⟩
      simp only [finish, hfault]
      split <;> rfl

/-- A command that reads no JSON ends as its result says. -/
theorem finish_of_not_readsJson (h : heading.readsJson = false) :
    finish display heading result = conclude display heading result := by
  apply finish_eq_conclude
  cases (conclude display heading result).stdout <;> simp [Heading.writeFault?, h]

end CommandLine

end CaretQuery
