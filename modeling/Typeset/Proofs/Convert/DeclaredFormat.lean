import Typeset.Proofs.Convert.Conversion
import Typeset.Proofs.Storage.Requests

/-!
# The format on the way to the storage

A storage is told a path and nothing of the format.  The format is in the name of the scratch file,
where no owner and no document can hide it, and the media type that is declared to a web service is
read off from there.
-/

namespace Typeset

namespace Scratch

variable {directory scratch : Path} {owner document : Text} {format : OutputFormat}
  {stamps : Nat → Stamp} {files reserved : Files}

/-- A scratch file is at the path of its name in the scratch directory, and the path leads there. -/
theorem exists_name_of_create
    (made : create directory owner document format stamps files = .ok (scratch, reserved)) :
    ∃ stamp, scratch = Path.join (files.absolute directory)
        (fileName owner document format stamp) ∧
      reserved.locate scratch = .ok (files.place (files.absolute directory) ++
        [fileName owner document format stamp]) := by
  rcases create_held made with ⟨place, held⟩
  have leads := Files.eq_place_of_locate held.located
  rw [Files.place_congr (workingDirectory_of_create made)] at leads
  rcases reserve_eq_ok made with ⟨stamp, rfl, _⟩
  refine ⟨stamp, rfl, ?_⟩
  rw [held.located, leads, place_join_fileName]

end Scratch

namespace Converter

variable {converter : Converter} {job : DocumentJob} {world : World}

theorem contentType_of_reserve {scratch : Path} {reserved : Files}
    (made : converter.reserve job world.files = .ok (scratch, reserved)) :
    Path.contentType scratch = job.format.contentType := by
  rcases Scratch.exists_name_of_create made with ⟨stamp, rfl, _⟩
  exact Scratch.contentType_join_fileName _ job.owner job.fileName job.format stamp

/-- An artifact that goes to a web service as one of a format. -/
structure Declares [DomainNames] (format : OutputFormat) (artifact : Path) : Prop where
  path : Path.contentType artifact = format.contentType
  request : ∀ (service : HttpStorage) (network : Network) (key : Text) (files : Files)
    (request : PutRequest) (reply : Reply),
    (service.send network key artifact files).2 = some (request, reply) →
      request.contentType = format.contentType

theorem declares_of_contentType [DomainNames] {format : OutputFormat} {artifact : Path}
    (path : Path.contentType artifact = format.contentType) : Declares format artifact where
  path := path
  request service network key files request reply sent := by
    rcases HttpStorage.exists_puts_of_send sent with ⟨content, url, puts⟩
    exact puts.contentType.trans path

theorem artifact_eq_of_mem {request : ConversionRequest} {key other : Text}
    {artifact scratch : Path} {content held : Option Bytes}
    (member : .upload other artifact content ∈ [Call.generate request, .upload key scratch held]) :
    artifact = scratch := by
  simp only [List.mem_cons, reduceCtorEq, Call.upload.injEq, List.not_mem_nil, or_false,
    false_or] at member
  exact member.2.1

/-- What a conversion asks to be uploaded is declared as of the format of the job. -/
theorem exists_calls_declare [DomainNames] (converter : Converter) (job : DocumentJob)
    (world : World) :
    ∃ added, ((converter.convert job).run world).2.calls = world.calls ++ added ∧
      ∀ key artifact content, .upload key artifact content ∈ added →
        Declares job.format artifact := by
  have way := conversion_convert converter job world
  generalize (converter.convert job).run world = ended at way
  rcases ended with ⟨result, after⟩
  cases way with
  | withoutScratch source refused => exact ⟨[], by simp, by simp⟩
  | notGenerated scratch reserved rejected retried rawError transcript second made =>
      exact ⟨_, rfl, by simp⟩
  | notStored scratch reserved generated stored artifact source made =>
      refine ⟨_, rfl, ?_⟩
      intro key asked content member
      obtain rfl : asked = scratch := artifact_eq_of_mem member
      exact declares_of_contentType (contentType_of_reserve made)
  | uploaded scratch reserved generated stored artifact url made =>
      refine ⟨_, rfl, ?_⟩
      intro key asked content member
      obtain rfl : asked = scratch := artifact_eq_of_mem member
      exact declares_of_contentType (contentType_of_reserve made)

end Converter

/-- Scratch names are safe, whatever the owner and the document are called, and what is uploaded is
declared as of the format that has been asked for. -/
theorem scratch_names_keep_format [DomainNames] (directory : Path) (owner document : Text)
    (format : OutputFormat) (stamps : Nat → Scratch.Stamp) :
    (∀ raw, Scratch.StandsFor raw (Scratch.sanitize raw) ∧
      Scratch.sanitize (Scratch.sanitize raw) = Scratch.sanitize raw) ∧
      (∀ files scratch reserved,
        Scratch.create directory owner document format stamps files = .ok (scratch, reserved) →
          ∃ stem rest, (∀ char ∈ stem, Scratch.isSafe char = true) ∧
            stem = Scratch.sanitize owner ++ '-' :: Scratch.sanitize document ++ '-' :: rest ∧
            scratch = Path.join (files.absolute directory) (stem ++ '.' :: format.extension) ∧
            reserved.locate scratch = .ok (files.place (files.absolute directory) ++
              [stem ++ '.' :: format.extension]) ∧
            Path.contentType scratch = format.contentType) ∧
      ∀ (converter : Converter) (job : DocumentJob) (world : World),
        ∃ added, ((converter.convert job).run world).2.calls = world.calls ++ added ∧
          ∀ key artifact content, .upload key artifact content ∈ added →
            Converter.Declares job.format artifact := by
  refine ⟨?_, ?_, Converter.exists_calls_declare⟩
  · intro raw
    exact ⟨Scratch.standsFor_sanitize raw, Scratch.sanitize_sanitize raw⟩
  · intro files scratch reserved made
    rcases Scratch.exists_name_of_create made with ⟨stamp, rfl, located⟩
    have declared := Scratch.contentType_join_fileName (files.absolute directory) owner document
      format stamp
    rw [Scratch.fileName_eq] at located declared ⊢
    refine ⟨Scratch.stem owner document stamp, Text.ofNat stamp.millis ++ '-' :: stamp.random,
      ?_, ?_, rfl, located, declared⟩
    · intro char member
      exact Scratch.isSafe_of_mem_stem member
    · simp [Scratch.stem]

/-- Dots, separators and another extension are no part of the path any more. -/
theorem scratch_names_keep_format_hostile :
    let files : Files := ⟨[], [(["tmp".toList], .directory)]⟩
    let name := "____-notes_tex-0-0.pdf".toList
    let reserved := files.put ["tmp".toList, name] (.file [])
    let created := Scratch.create "/tmp".toList "../é".toList "notes.tex".toList .pdf
      Scratch.countingStamps files
    created = .ok ("/tmp/".toList ++ name, reserved) ∧
      Path.contentType ("/tmp/".toList ++ name) = "application/pdf".toList := by
  intro files name reserved created
  have made : created = .ok ("/tmp/".toList ++ name, reserved) := by decide +kernel
  have named := (scratch_names_keep_format "/tmp".toList "../é".toList "notes.tex".toList .pdf
    Scratch.countingStamps).2.1 files _ reserved made
  rcases named with ⟨stem, rest, _, _, _, _, declared⟩
  exact ⟨made, declared⟩

end Typeset
