import Typeset.Main
import Typeset.Proofs.CommandLine.ExitCode
import Typeset.Proofs.Convert.Batch
import Typeset.Proofs.Convert.Rejection
import Typeset.Proofs.Convert.ScratchFiles
import Typeset.Proofs.Diagnosis.LeadingReference
import Typeset.Proofs.Diagnosis.LineEnds
import Typeset.Proofs.Diagnosis.QuotedFragment
import Typeset.Proofs.Diagnosis.RemainingMarkers
import Typeset.Proofs.Diagnosis.SectionRule
import Typeset.Proofs.Diagnosis.SeededSections
import Typeset.Proofs.InlineMath.Layout
import Typeset.Proofs.LabelIndex.Runs
import Typeset.Proofs.LabelPattern.Scanner
import Typeset.Proofs.Service.Answers
import Typeset.Proofs.Service.LocalStore
import Typeset.Proofs.Service.Observation
import Typeset.Proofs.Storage.BucketAddress
import Typeset.Proofs.Request.Batch
import Typeset.Proofs.Request.Agreement
import Typeset.Proofs.Storage.Requests
import Typeset.Proofs.Storage.LocalMap
import Typeset.Proofs.Storage.FailedUploads
import Typeset.Proofs.Convert.DeclaredFormat
import Typeset.Proofs.Text.LineCount
import Typeset.Proofs.Engine.Outcome
import Typeset.Proofs.Config.Settings
import Typeset.Proofs.Config.ReadBack
