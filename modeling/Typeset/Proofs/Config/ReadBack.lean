import Typeset.Config.Environment
import Typeset.Config.Profile
import Typeset.Proofs.Json.Number
import Typeset.Proofs.Json.Writing
import Typeset.Request.Basic

/-!
# Settings are read back

Profiles, environments and set numbers are read from what is written for them.  Profiles and
environments are records: each member is read on its own, and when the last one has been read all of
them are known.  A set number has no name that says what it is.  It is a number or a text by how it
begins, so the two are never confused, whatever digits a text consists of.
-/

namespace Typeset

open Json (Value Reader IsWriting quoted)

open Json.Reader (Reads)

variable {write : Nat → Value → Text}

namespace Json

namespace IsWriting

theorem reads_texts (writing : IsWriting write) {depth : Nat} (deep : 1 < depth) (level : Nat)
    (values : List Text) :
    Reads (Reader.list depth Reader.text) (write level (.ofTexts values)) values := by
  rcases writing.list level (values.map .text) with ⟨layout, written⟩
  have elements : (values.map Value.text).map (write (level + 1)) = values.map quoted := by
    rw [List.map_map]
    exact List.map_congr_left fun value _ => writing.text (level + 1) value
  rw [Value.ofTexts, written, elements]
  exact Reader.reads_list layout deep (Reader.reads_textOf _) values

theorem reads_path (writing : IsWriting write) (level : Nat) (value : Path) :
    Reads Reader.path (write level (.text value)) value := by
  rw [writing.text]
  exact Reader.reads_textOf _ value

theorem reads_path? (writing : IsWriting write) (level : Nat) (value : Option Path) :
    Reads (Reader.optional Reader.path) (write level (.ofText? value)) value := by
  cases value with
  | none =>
      rw [Value.ofText?, writing.null]
      exact Reader.reads_null _
  | some value =>
      apply Reader.reads_optional (writing.reads_path level value)
      rw [writing.text]
      simp [quoted]

theorem reads_boolean (writing : IsWriting write) (level : Nat) (value : Bool) :
    Reads Reader.boolean (write level (.boolean value)) value := by
  rw [writing.boolean]
  exact Reader.reads_boolean value

end IsWriting

end Json

namespace FormatProfile

theorem reads_toJson (writing : IsWriting write) (level : Nat) (profile : FormatProfile) :
    Reads (reader Reader.depthLimit) (write level profile.toJson) profile := by
  have deep : 1 < Reader.depthLimit - 1 := by decide
  rcases writing.object level _ with ⟨layout, written⟩
  rw [toJson, written]
  have complete : (record (Reader.depthLimit - 1)).complete ⟨some profile.implicitFigures,
      some profile.pdfArguments, some profile.texArguments, some profile.transcriptArguments,
      some profile.template⟩ = .ok profile := rfl
  refine Reader.Record.reads_reader layout (by decide) ?_ complete
  have figures := writing.reads_boolean (level + 1) profile.implicitFigures
  have pdf := writing.reads_texts deep (level + 1) profile.pdfArguments
  have tex := writing.reads_texts deep (level + 1) profile.texArguments
  have transcript := writing.reads_texts deep (level + 1) profile.transcriptArguments
  have template := writing.reads_path? (level + 1) profile.template
  refine .cons _ rfl rfl (figures.map _) ?_
  refine .cons _ rfl rfl (pdf.map _) ?_
  refine .cons _ rfl rfl (tex.map _) ?_
  refine .cons _ rfl rfl (transcript.map _) ?_
  exact .cons _ rfl rfl (template.map _) (.nil _)

end FormatProfile

namespace EngineEnvironment

theorem reads_toJson (writing : IsWriting write) (level : Nat) (environment : EngineEnvironment) :
    Reads (reader Reader.depthLimit) (write level environment.toJson) environment := by
  rcases writing.object level _ with ⟨layout, written⟩
  rw [toJson, written]
  have complete : record.complete ⟨some environment.home, some environment.cache,
      some environment.texmfVar⟩ = .ok environment := rfl
  refine Reader.Record.reads_reader layout (by decide) ?_ complete
  refine .cons _ rfl rfl ((writing.reads_path (level + 1) environment.home).map _) ?_
  refine .cons _ rfl rfl ((writing.reads_path (level + 1) environment.cache).map _) ?_
  exact .cons _ rfl rfl ((writing.reads_path (level + 1) environment.texmfVar).map _) (.nil _)

end EngineEnvironment

namespace SetNumber

/-- A set number is read from what is written for it, and it is of the same kind then. -/
theorem whole_toJson (writing : IsWriting write) (level : Nat) (setNumber : SetNumber) :
    Reader.whole (reader Reader.depthLimit) (write level setNumber.toJson) = .ok setNumber := by
  apply Reader.whole_eq_ok
  cases setNumber with
  | number value =>
      have within : value.toNat ≤ Json.maxNatural := Nat.le_pred_of_lt value.toNat_lt
      rw [toJson, writing.natural]
      refine Reader.bind_eq_ok (Reader.any_ofNat _ within) ?_
      have same : value.toNat.toUInt64 = value := UInt64.ofNat_toNat
      exact congrArg (fun value => Except.ok (number value, [])) same
  | text value =>
      rw [toJson, writing.text]
      have read : Reader.any Reader.depthLimit (quoted value) = .ok (.text value, []) := by
        refine Reader.bind_eq_ok (Reader.afterBlanks?_cons rfl _) ?_
        refine Reader.bind_eq_ok (Reader.skip_cons '"' _) ?_
        exact Reader.bind_eq_ok (Reader.textBody_append value []) rfl
      exact Reader.bind_eq_ok read rfl

theorem number_ne_text (writing : IsWriting write) (level : Nat) (value : UInt64) (text : Text) :
    write level (number value).toJson ≠ write level (SetNumber.text text).toJson := by
  intro same
  have read := whole_toJson writing level (number value)
  rw [same, whole_toJson writing level (.text text)] at read
  cases read

end SetNumber

/-- Every profile, every environment and every set number is read back unchanged, whether it is
written in one line or over several.  A number is never written as a text is. -/
theorem settings_read_back :
    (∀ profile : FormatProfile,
      FormatProfile.ofJson profile.toJson.compact = .ok profile ∧
        FormatProfile.ofJson (profile.toJson.pretty 0) = .ok profile) ∧
    (∀ environment : EngineEnvironment,
      EngineEnvironment.ofJson environment.toJson.compact = .ok environment ∧
        EngineEnvironment.ofJson (environment.toJson.pretty 0) = .ok environment) ∧
    (∀ setNumber : SetNumber,
      Reader.whole (SetNumber.reader Reader.depthLimit) setNumber.toJson.compact = .ok setNumber ∧
        Reader.whole (SetNumber.reader Reader.depthLimit) (setNumber.toJson.pretty 0) =
          .ok setNumber) ∧
    ∀ (value : UInt64) (text : Text),
      (SetNumber.number value).toJson.compact ≠ (SetNumber.text text).toJson.compact ∧
        (SetNumber.number value).toJson.pretty 0 ≠ (SetNumber.text text).toJson.pretty 0 := by
  have compact := Value.isWriting_compact
  have pretty := Value.isWriting_pretty
  refine ⟨?_, ?_, ?_, ?_⟩
  · intro profile
    exact ⟨(profile.reads_toJson compact 0).whole_eq_ok,
      (profile.reads_toJson pretty 0).whole_eq_ok⟩
  · intro environment
    exact ⟨(environment.reads_toJson compact 0).whole_eq_ok,
      (environment.reads_toJson pretty 0).whole_eq_ok⟩
  · intro setNumber
    exact ⟨setNumber.whole_toJson compact 0, setNumber.whole_toJson pretty 0⟩
  · intro value text
    exact ⟨SetNumber.number_ne_text compact 0 value text,
      SetNumber.number_ne_text pretty 0 value text⟩

end Typeset
