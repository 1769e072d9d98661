import CaretQuery.Text.CharClass
import Mathlib.Data.List.TakeWhile

/-! # Trimmed texts

Trimming splits a text into blanks, a text without blanks at its ends, and
blanks again. There is only one such split.
-/
namespace CaretQuery.Text

variable {cs before after : List Char}

def AllBlank (cs : List Char) : Prop := ∀ c ∈ cs, isBlank c = true

/-- There is no blank at either end. -/
structure IsTrimmed (cs : List Char) : Prop where
  head : ∀ c ∈ cs.head?, isBlank c = false
  last : ∀ c ∈ cs.getLast?, isBlank c = false

theorem AllBlank.notMem {c : Char} (h : AllBlank cs) (hc : isBlank c = false) : c ∉ cs := by
  intro hmem
  cases (h c hmem).symm.trans hc

theorem allBlank_append : AllBlank (before ++ after) ↔ AllBlank before ∧ AllBlank after :=
  List.forall_mem_append

theorem trimLeft_append (h : AllBlank before) : trimLeft (before ++ cs) = trimLeft cs :=
  List.dropWhile_append_of_pos h

theorem trimLeft_eq_self (h : ∀ c ∈ cs.head?, isBlank c = false) : trimLeft cs = cs := by
  cases cs with
  | nil => rfl
  | cons c cs => exact List.dropWhile_cons_of_neg (by simp [h c rfl])

/-- What is trimmed on the left is blank, and what is left does not start with a blank. -/
theorem exists_trimLeft (cs : List Char) :
    ∃ before, AllBlank before ∧ cs = before ++ trimLeft cs ∧
      ∀ c ∈ (trimLeft cs).head?, isBlank c = false := by
  refine ⟨cs.takeWhile isBlank, fun c hc => List.mem_takeWhile_imp hc,
    List.takeWhile_append_dropWhile.symm, fun c hc => ?_⟩
  have hhead := List.head?_dropWhile_not isBlank cs
  rw [← trimLeft, Option.mem_def.1 hc] at hhead
  exact hhead

theorem trimRight_eq (cs : List Char) : trimRight cs = (trimLeft cs.reverse).reverse := rfl

theorem trimRight_append (h : AllBlank after) : trimRight (cs ++ after) = trimRight cs := by
  have hreverse : AllBlank after.reverse := fun c hc => h c (List.mem_reverse.1 hc)
  rw [trimRight_eq, List.reverse_append, trimLeft_append hreverse, trimRight_eq]

theorem trimRight_eq_self (h : ∀ c ∈ cs.getLast?, isBlank c = false) : trimRight cs = cs := by
  rw [trimRight_eq, trimLeft_eq_self, List.reverse_reverse]
  rwa [List.head?_reverse]

theorem exists_trimRight (cs : List Char) :
    ∃ after, AllBlank after ∧ cs = trimRight cs ++ after ∧
      ∀ c ∈ (trimRight cs).getLast?, isBlank c = false := by
  obtain ⟨before, hbefore, hcs, hhead⟩ := exists_trimLeft cs.reverse
  refine ⟨before.reverse, fun c hc => hbefore c (List.mem_reverse.1 hc), ?_, ?_⟩
  · rw [trimRight_eq, ← List.reverse_append, ← hcs, List.reverse_reverse]
  · rwa [trimRight_eq, List.getLast?_reverse]

/-- Trimming removes the blanks around a text without blanks at its ends. -/
theorem trim_append_append (hbefore : AllBlank before) (hcs : IsTrimmed cs)
    (hafter : AllBlank after) : trim (before ++ cs ++ after) = cs := by
  cases cs with
  | nil =>
    have hblank : AllBlank (before ++ [] ++ after) := by
      rw [List.append_nil, allBlank_append]
      exact ⟨hbefore, hafter⟩
    rw [trim, ← List.append_nil (before ++ [] ++ after), trimLeft_append hblank]
    rfl
  | cons c cs =>
    rw [trim, List.append_assoc, trimLeft_append hbefore,
      trimLeft_eq_self (by simpa using hcs.head), trimRight_append hafter,
      trimRight_eq_self hcs.last]

/-- Every text is a trimmed one with blanks around it. -/
theorem exists_trim (cs : List Char) :
    ∃ before after, AllBlank before ∧ AllBlank after ∧ cs = before ++ trim cs ++ after ∧
      IsTrimmed (trim cs) := by
  obtain ⟨before, hbefore, hleft, hhead⟩ := exists_trimLeft cs
  obtain ⟨after, hafter, hright, hlast⟩ := exists_trimRight (trimLeft cs)
  refine ⟨before, after, hbefore, hafter, ?_, ⟨fun c hc => hhead c ?_, hlast⟩⟩
  · rw [trim, List.append_assoc, ← hright, ← hleft]
  · rw [hright, ← trim, List.head?_append, Option.mem_def.1 hc]
    rfl

theorem trim_eq_nil_iff : trim cs = [] ↔ AllBlank cs := by
  constructor
  · intro h
    obtain ⟨before, after, hbefore, hafter, hcs, -⟩ := exists_trim cs
    rw [hcs, h, List.append_nil, allBlank_append]
    exact ⟨hbefore, hafter⟩
  · intro h
    have hnil : IsTrimmed [] := ⟨by simp, by simp⟩
    simpa using trim_append_append h hnil (List.forall_mem_nil _)

end CaretQuery.Text
