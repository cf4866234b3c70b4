import RouteDoc.CommandLine
import RouteDoc.Main
import RouteDoc.Proofs.Generator.LineEnds
import RouteDoc.Proofs.Generator.Outcomes
import RouteDoc.Proofs.Generator.ParamLines
import RouteDoc.Proofs.Generator.Rehearsals
import RouteDoc.Proofs.Generator.Reruns
import RouteDoc.Proofs.Generator.Tallies
import RouteDoc.Proofs.Naming.InferredPaths
import RouteDoc.Proofs.Naming.Splitting
import RouteDoc.Proofs.RequestType.Tags
import RouteDoc.Proofs.Router.CanonicalPaths
import RouteDoc.Proofs.Router.RoundTrip
import RouteDoc.Proofs.Session.SearchOrder
import RouteDoc.Proofs.Settings.Failures
import RouteDoc.Proofs.TopLevel.DocRuns
import RouteDoc.Proofs.TopLevel.Signatures
import RouteDoc.Proofs.Workspace.Discovery
