import RoleGuard.Access
import RoleGuard.CommandLine.Run
import RoleGuard.Coverage
import RoleGuard.Files.Tree
import RoleGuard.Main
import RoleGuard.Report.Reader
import RoleGuard.Rule.Clause
import RoleGuard.Proofs.Coverage
import RoleGuard.Proofs.Containment
import RoleGuard.Proofs.Interchange
import RoleGuard.Proofs.Grantor
import RoleGuard.Proofs.Safety
import RoleGuard.Proofs.Delegation
import RoleGuard.Proofs.Reading
import RoleGuard.Proofs.Remedy
import RoleGuard.Proofs.Agreement
import RoleGuard.Proofs.Paths
import RoleGuard.Proofs.Loading
import RoleGuard.Proofs.Running
import RoleGuard.Proofs.Refusal
import RoleGuard.Proofs.Json
import RoleGuard.Proofs.ExitCodes
import RoleGuard.Proofs.Arguments
import RoleGuard.Proofs.SelfCoverage
import RoleGuard.Proofs.Printing
import RoleGuard.Proofs.Suggestions
import RoleGuard.Proofs.Advice
import RoleGuard.Proofs.Lossless
import RoleGuard.Proofs.LogCalls
import RoleGuard.Proofs.Annotations
import RoleGuard.Proofs.CoreGroup
import RoleGuard.Proofs.FailureText
import RoleGuard.Proofs.Grammar
import RoleGuard.Proofs.RoleDocuments
import RoleGuard.Proofs.Streams
import RoleGuard.Proofs.Catalogs
import RoleGuard.Proofs.Precedence
import RoleGuard.Proofs.Observations
import RoleGuard.Proofs.Trees
import RoleGuard.Proofs.NamePatterns
import RoleGuard.Proofs.Discovery
import RoleGuard.Proofs.Summaries
import RoleGuard.Proofs.CommaLists
