import ConditionalForm.CommandLine
import ConditionalForm.Form.Encoding
import ConditionalForm.Main
import ConditionalForm.Proofs.Dependency.Closing
import ConditionalForm.Proofs.Dependency.Search
import ConditionalForm.Proofs.Dependency.FoundCycles
import ConditionalForm.Proofs.Dependency.CyclicSequence
import ConditionalForm.Proofs.Visibility.Fixpoint
import ConditionalForm.Proofs.Visibility.CycleReports
import ConditionalForm.Proofs.Visibility.Settling
import ConditionalForm.Proofs.Form.State
import ConditionalForm.Proofs.Form.Starting
import ConditionalForm.Proofs.Form.Runs
import ConditionalForm.Proofs.Form.Lint
import ConditionalForm.Proofs.Visibility.Visits
import ConditionalForm.Proofs.Visibility.Presenting
import ConditionalForm.Proofs.Form.Flips
import ConditionalForm.Proofs.Dependency.Reordering
import ConditionalForm.Proofs.Form.Refusals
import ConditionalForm.Proofs.Visibility.DeclarationOrder
import ConditionalForm.Proofs.Visibility.Inheriting
import ConditionalForm.Proofs.Visibility.Lasting
import ConditionalForm.Proofs.Form.ReservedNames
import ConditionalForm.Proofs.Form.Conditions
import ConditionalForm.Proofs.Rule.Operators
import ConditionalForm.Proofs.Rule.Tables
import ConditionalForm.Proofs.Rule.Clauses
import ConditionalForm.Proofs.Rule.Parsing
import ConditionalForm.Proofs.Rule.Writing
import ConditionalForm.Proofs.Rule.Referring
import ConditionalForm.Proofs.Number.Ordering
import ConditionalForm.Proofs.Number.Positions
import ConditionalForm.Proofs.Form.Inheritance
import ConditionalForm.Proofs.Form.Permanence
import ConditionalForm.Proofs.Form.KnownProblems
import ConditionalForm.Proofs.Form.CycleFindings
import ConditionalForm.Proofs.Form.Views
import ConditionalForm.Proofs.Rule.Prefixing
import ConditionalForm.Proofs.Dependency.Prefixing
import ConditionalForm.Proofs.Visibility.Prefixing
import ConditionalForm.Proofs.Form.Prefixing
import ConditionalForm.Proofs.Form.PrefixedFindings
import ConditionalForm.Proofs.Form.Prefixes
import ConditionalForm.Proofs.Form.StartFailures
import ConditionalForm.Proofs.CommandLine.Agreement
import ConditionalForm.Proofs.Dependency.Relinking
import ConditionalForm.Proofs.Form.Selections
import ConditionalForm.Proofs.Visibility.Consistency
import ConditionalForm.Proofs.Dependency.PathOrder
import ConditionalForm.Proofs.Visibility.Traversal
import ConditionalForm.Proofs.Form.CycleVisibility
import ConditionalForm.Proofs.Json.Writing
import ConditionalForm.Proofs.Json.Reading
import ConditionalForm.Proofs.Json.Sorting
import ConditionalForm.Proofs.Form.Roundtrip
import ConditionalForm.Proofs.Number.WholeNumbers
import ConditionalForm.Proofs.Visibility.Taking
import ConditionalForm.Proofs.Form.Writes
import ConditionalForm.Proofs.Visibility.Telling
