import TokenAudit.Main
import TokenAudit.Pattern.Written
import TokenAudit.Proofs.Audit.Document
import TokenAudit.Proofs.Audit.Isolation
import TokenAudit.Proofs.Declarations.Written
import TokenAudit.Store.Edit
import TokenAudit.Proofs.Declarations.Listed
import TokenAudit.Proofs.Declarations.Braces
import TokenAudit.Proofs.Signature.WholeWords
import TokenAudit.Proofs.Signature.Reduction
import TokenAudit.Proofs.Signature.Idempotence
import TokenAudit.Proofs.Signature.ParameterNames
import TokenAudit.Proofs.Signature.Written
import TokenAudit.Proofs.Signature.Positions
import TokenAudit.Proofs.Signature.Flat
import TokenAudit.Proofs.Signature.Matching
import TokenAudit.Proofs.Declarations.Moved
import TokenAudit.Proofs.Audit.Preamble
import TokenAudit.Proofs.Requirement.Codes
import TokenAudit.Proofs.BatchTransfer.Findings
import TokenAudit.Proofs.Requirement.Bitmap
import TokenAudit.Proofs.Requirement.Bodies
import TokenAudit.Proofs.Json.Document
import TokenAudit.Proofs.Json.Layout
import TokenAudit.Proofs.Json.RoundTrip
import TokenAudit.Proofs.Pattern.Groups
import TokenAudit.Proofs.Project.Output
import TokenAudit.Proofs.Session
import TokenAudit.Proofs.Store.History
import TokenAudit.Proofs.Store.Opening
import TokenAudit.Proofs.Store.Outcomes
import TokenAudit.Proofs.Audit.Profile
import TokenAudit.Proofs.Audit.Recorded
import TokenAudit.Proofs.Files.Changes
import TokenAudit.Proofs.Files.Components
import TokenAudit.Proofs.Files.Directories
import TokenAudit.Proofs.Files.Places
import TokenAudit.Proofs.Pattern.Language
import TokenAudit.Proofs.BatchTransfer.EventOrder
import TokenAudit.Proofs.Project.Target
import TokenAudit.Proofs.Command.Stages
import TokenAudit.Proofs.Command.Refusals
import TokenAudit.Proofs.Command.ValidSpecs
import TokenAudit.Proofs.BatchTransfer.Override
import TokenAudit.Proofs.Pattern.Sequences
import TokenAudit.Proofs.Pattern.Marks
import TokenAudit.Proofs.Unicode.WhiteSpace
import TokenAudit.Proofs.Pattern.Spliced
import TokenAudit.Proofs.Pattern.Size
import TokenAudit.Proofs.Pattern.Spacing
import TokenAudit.Proofs.BatchTransfer.LiteralNames
import TokenAudit.Proofs.Requirement.Deadline
import TokenAudit.Proofs.BatchTransfer.Polarity
import TokenAudit.Proofs.Calls.Independence
import TokenAudit.Proofs.Conditions.Statements
import TokenAudit.Proofs.Requirement.DomainTuples
import TokenAudit.Proofs.Store.Versions
import TokenAudit.Proofs.Text.Collapse
import TokenAudit.Proofs.Conditions.Arguments
import TokenAudit.Proofs.Conditions.Reformatted
import TokenAudit.Proofs.Text.Comments
import TokenAudit.Proofs.Files.PathOrder
import TokenAudit.Proofs.Files.Tree
import TokenAudit.Proofs.Files.Sources
import TokenAudit.Proofs.Audit.Counts
import TokenAudit.Proofs.BatchTransfer.CalleeNames
import TokenAudit.Proofs.Selector
import TokenAudit.Proofs.ByteScan.Safety
import TokenAudit.Proofs.Calls.OwnName
import TokenAudit.Proofs.Signature.OrderedParameters
import TokenAudit.Proofs.Command.Creation
