import CaretQuery.Config
import CaretQuery.Proofs.Text.Utf8
import Mathlib

/-! # What a configuration file holds

A configuration file that can be looked up is loaded, or refused with a fault of
the configuration, as far as its bytes are those of a text and its integers are
short enough to be converted. Other bytes and longer integers come through as
the faults of their own readers.
-/
namespace CaretQuery.Config

variable {files : Files} {path : Path}

/-- A load that ends with a configuration that is there, or with a fault of the configuration. -/
inductive IsReported : Except LoadFault Loaded → Prop
  | loaded {loaded : Loaded} (hpresent : loaded.isPresent = true) : IsReported (.ok loaded)
  | refused (fault : ConfigFault) : IsReported (.error (.config fault))

/-- Bytes are those of a text whose integers are short enough to be converted. -/
def IsReadable (content : List UInt8) : Prop :=
  ∃ text, content = Text.Utf8.encode text ∧
    ∀ count, Toml.read text.toList ≠ .error (.tooManyDigits count)

theorem load_of_unreadable {fault : FileFault} (hpresent : files.isPresent path = .ok true)
    (hread : files.read path = .error fault) :
    load files path = .error (.config (.unreadable fault)) := by
  rw [load, hpresent]
  simp only [hread]

theorem load_of_content {content : List UInt8} (hpresent : files.isPresent path = .ok true)
    (hread : files.read path = .ok content) :
    load files path = (tableOfContent content).map fun custom => ⟨path, true, custom⟩ := by
  rw [load, hpresent]
  simp only [hread]

theorem isReadable_iff {content : List UInt8} :
    IsReadable content ↔ ∃ cs, Text.Utf8.decode content = .ok cs ∧
      ∀ count, Toml.read cs ≠ .error (.tooManyDigits count) := by
  constructor
  · rintro ⟨text, rfl, hshort⟩
    exact ⟨text.toList, Text.Utf8.decode_encode text, hshort⟩
  · rintro ⟨cs, hdecode, hshort⟩
    refine ⟨String.ofList cs, Text.Utf8.decode_eq_ok_iff.1 hdecode, ?_⟩
    rwa [String.toList_ofList]

theorem isReported_tableOfContent {content : List UInt8} :
    IsReported ((tableOfContent content).map fun custom => ⟨path, true, custom⟩) ↔
      IsReadable content := by
  rw [tableOfContent, isReadable_iff]
  cases hdecode : Text.Utf8.decode content with
  | error fault => exact iff_of_false nofun (by simp)
  | ok cs =>
    simp only [Except.ok.injEq, exists_eq_left']
    cases hread : Toml.read cs with
    | error fault =>
      cases fault with
      | invalid => exact iff_of_true (.refused .notToml) nofun
      | tooManyDigits count => exact iff_of_false nofun fun hshort => hshort count rfl
    | ok document =>
      refine iff_of_true ?_ nofun
      simp only
      cases tableOfDocument document with
      | error fault => exact .refused fault
      | ok custom => exact .loaded rfl

/-- A configuration that is there is loaded or refused with a fault of its own
exactly if its content, as far as it can be read, is readable. -/
theorem load_isReported_iff (hpresent : files.isPresent path = .ok true) :
    IsReported (load files path) ↔
      ∀ content, files.read path = .ok content → IsReadable content := by
  cases hread : files.read path with
  | error fault =>
    rw [load_of_unreadable hpresent hread]
    exact iff_of_true (.refused (.unreadable fault)) nofun
  | ok content =>
    rw [load_of_content hpresent hread, isReported_tableOfContent]
    simp

/-- A directory in the place of the configuration is a fault of the configuration. -/
theorem load_isReported_iff_directory :
    let files : Files := { root := [("c.toml", .directory [])] }
    files.isPresent ⟨"", ["c.toml"]⟩ = .ok true ∧ IsReported (load files ⟨"", ["c.toml"]⟩) := by
  intro files
  have hpresent : files.isPresent ⟨"", ["c.toml"]⟩ = .ok true := by cbv
  have hread : files.read ⟨"", ["c.toml"]⟩ = .error ⟨.isDirectory, "c.toml"⟩ := by cbv
  refine ⟨hpresent, (load_isReported_iff hpresent).2 fun content hcontent => ?_⟩
  cases hread.symm.trans hcontent

/-- A byte that starts no character is not reported as a fault of the configuration. -/
theorem load_undecodable :
    let files : Files := { root := [("config.toml", .file [0xFF])] }
    files.isPresent ⟨"", ["config.toml"]⟩ = .ok true ∧
      ¬ IsReported (load files ⟨"", ["config.toml"]⟩) := by
  intro files
  have hload : load files ⟨"", ["config.toml"]⟩ =
      .error (.undecodable ⟨0, [0xFF], .invalidStart⟩) := by cbv
  refine ⟨by cbv, ?_⟩
  rw [hload]
  intro hreported
  cases hreported

end CaretQuery.Config
