import Typeset.Proofs.Request.Batch
import Typeset.Proofs.Request.SingleDocument

/-!
# Accepted jobs

What validation guarantees of the jobs that it lets through, whatever payload they come from: the
owner and the file name of each are names, that is trimmed texts without separators and without two
dots in a row.
-/

namespace Typeset

/-- A name that can be part of a key. -/
structure IsName (name : Text) : Prop where
  trimmed : name.IsTrimmed
  no_slash : '/' ∉ name
  no_backslash : '\\' ∉ name
  no_dots : Text.occursIn ['.', '.'] name = false

theorem IsName.ne_dots {name : Text} (named : IsName name) : name ≠ ['.', '.'] := by
  rintro rfl
  cases named.no_dots

/-- A job that comes of some payload, for one document or for a batch. -/
def DocumentJob.IsAccepted [Pattern.Sizes] (job : DocumentJob) : Prop :=
  ∃ payload figures jobs, job ∈ jobs ∧
    (SingleRequest.jobsOfPayload payload figures = .ok jobs ∨
      BatchItem.jobsOfPayload payload figures = .ok jobs)

open Validation

theorem IsName.of_isSafe {name : Text} (trimmed : name.IsTrimmed) (safe : IsSafe name) :
    IsName name where
  trimmed := trimmed
  no_slash := safe.no_slash
  no_backslash := safe.no_backslash
  no_dots := by
    rw [← Bool.not_eq_true, Text.occursIn_iff]
    exact safe.no_dots

theorem IsName.isSafe {name : Text} (named : IsName name) : IsSafe name where
  no_slash := named.no_slash
  no_backslash := named.no_backslash
  no_dots := by
    rw [← Text.occursIn_iff, named.no_dots]
    exact Bool.false_ne_true

theorem SingleRequest.isName_of_validate [Pattern.Sizes] {request : SingleRequest} {figures : Bool}
    {jobs : List DocumentJob} (valid : request.validate figures = .ok jobs) :
    ∀ job ∈ jobs, IsName job.owner ∧ IsName job.fileName := by
  rcases validate_eq_ok_iff.mp valid with ⟨draft, settled, rfl⟩
  rcases settled .owner with ⟨ownerGiven, ownerSafe⟩
  rcases settled .fileName with ⟨named, nameSafe⟩
  intro job member
  rcases Draft.exists_of_mem_jobs member with ⟨format, rfl⟩
  exact ⟨.of_isSafe ownerGiven.isTrimmed ownerSafe, .of_isSafe named.isTrimmed nameSafe⟩

theorem BatchItem.isName_of_validate [Pattern.Sizes] {item : BatchItem} {figures : Bool}
    {job : DocumentJob} (valid : item.validate figures = .ok job) :
    IsName job.owner ∧ IsName job.fileName := by
  have described := validate_eq_ok_iff.mp valid
  exact ⟨.of_isSafe described.owner.1.isTrimmed described.owner.2,
    .of_isSafe described.fileName.1.isTrimmed described.fileName.2⟩

theorem BatchItem.isName_of_validateAll [Pattern.Sizes] {items : List BatchItem} {figures : Bool}
    {jobs : List DocumentJob} (valid : validateAll items figures = .ok jobs) :
    ∀ job ∈ jobs, IsName job.owner ∧ IsName job.fileName := by
  rcases validateAll_eq_ok_iff.mp valid with ⟨-, each⟩
  clear valid
  induction each with
  | nil => simp
  | cons first _ ih => exact List.forall_mem_cons.mpr ⟨isName_of_validate first, ih⟩

/-- Owners and file names of accepted jobs are names. -/
theorem DocumentJob.IsAccepted.isName [Pattern.Sizes] {job : DocumentJob}
    (accepted : job.IsAccepted) : IsName job.owner ∧ IsName job.fileName := by
  rcases accepted with ⟨payload, figures, jobs, member, single | batch⟩
  · unfold SingleRequest.jobsOfPayload at single
    split at single
    · cases single
    · split at single
      · cases single
      · rename_i valid
        cases single
        exact SingleRequest.isName_of_validate valid job member
  · unfold BatchItem.jobsOfPayload at batch
    split at batch
    · cases batch
    · exact BatchItem.isName_of_validateAll batch job member

end Typeset
