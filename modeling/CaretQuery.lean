import CaretQuery.Main
import CaretQuery.Workspace
import CaretQuery.Proofs.ClausePass
import CaretQuery.Proofs.Filter.Outcome
import CaretQuery.Proofs.Filter.Concatenation
import CaretQuery.Proofs.Expression.Flattening
import CaretQuery.Proofs.Query.Canonical
import CaretQuery.Proofs.Expression.Joining
import CaretQuery.Proofs.Operator.Merging
import CaretQuery.Proofs.Query.Matches
import CaretQuery.Proofs.Expression.Spelling
import CaretQuery.Proofs.CommandLine.Build
import CaretQuery.Proofs.Operator.Records
import CaretQuery.Proofs.Config.Document
import CaretQuery.Proofs.Config.Cache
import CaretQuery.Proofs.Json.RoundTrip
import CaretQuery.Proofs.Json.Extent
import CaretQuery.Proofs.CommandLine.Clauses
import CaretQuery.Proofs.CommandLine.Reports
import CaretQuery.Proofs.CommandLine.Formats
import CaretQuery.Proofs.Text.Utf8
import CaretQuery.Proofs.CommandLine.Faults
import CaretQuery.Proofs.Log.Nesting
import CaretQuery.Proofs.Config.Loading
import CaretQuery.Proofs.Config.Writing
import CaretQuery.Proofs.CommandLine.Diagnostics
import CaretQuery.Proofs.Files.Items
import CaretQuery.Proofs.Files.Walking
import CaretQuery.Proofs.Query.Plain
import CaretQuery.Proofs.Files.Changing
import CaretQuery.Proofs.Log.Delivery
import CaretQuery.Proofs.Config.Creation
import CaretQuery.Proofs.CommandLine.Checks
import CaretQuery.Proofs.CommandLine.Creation
import CaretQuery.Proofs.Files.Differing
import CaretQuery.Proofs.Log.Differing
import CaretQuery.Proofs.CommandLine.Independence
import CaretQuery.Proofs.Sort.Outcome
import CaretQuery.Proofs.Clause.Shape
import CaretQuery.Proofs.Filter.Dependence
import CaretQuery.Proofs.Operator.Sessions
import CaretQuery.Proofs.Query.Modes
import CaretQuery.Proofs.CommandLine.Refusals
import CaretQuery.Proofs.CommandLine.Stages
import CaretQuery.Proofs.CommandLine.FirstFault
import CaretQuery.Proofs.Clause.Texts
import CaretQuery.Proofs.CommandLine.Blame
import CaretQuery.Proofs.Clause.Leaves
import CaretQuery.Proofs.Text.Trimming
import CaretQuery.Proofs.CommandLine.Matches
import CaretQuery.Proofs.Calendar.Digits
import CaretQuery.Proofs.Calendar.TextOrder
import CaretQuery.Proofs.Query.Directions
