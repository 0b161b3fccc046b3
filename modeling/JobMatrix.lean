import JobMatrix.Main
import JobMatrix.Proofs.Skip.Line
import JobMatrix.Proofs.Plan.Outputs
import JobMatrix.Proofs.Resolution.Selection
import JobMatrix.Proofs.Catalog.Declarations
import JobMatrix.Proofs.Resolution.Exclusion
import JobMatrix.Proofs.Plan.Jobs
import JobMatrix.Proofs.Catalog.Settled
import JobMatrix.Proofs.Catalog.Lookups
import JobMatrix.Proofs.Resolution.Platforms
import JobMatrix.Proofs.Plan.Reordering
import JobMatrix.Proofs.Files.Append
import JobMatrix.Proofs.Run.Steps
import JobMatrix.Proofs.Run.History
import JobMatrix.Proofs.Resolution.References
import JobMatrix.Proofs.Plan.Sharing
import JobMatrix.Proofs.Plan.Additions
import JobMatrix.Proofs.CommandLine.LanguageFlag
import JobMatrix.Proofs.CommandLine.Reading
import JobMatrix.Proofs.Repro.Spelling
import JobMatrix.Proofs.Catalog.Ownership
import JobMatrix.Proofs.Resolution.Formula
import JobMatrix.Proofs.Json.Nesting
import JobMatrix.Proofs.Text.Literals
import JobMatrix.Proofs.Repro.FirstFault
import JobMatrix.Proofs.CommandLine.Precedence
import JobMatrix.Proofs.Plan.Summary
import JobMatrix.Proofs.Catalog.Document
