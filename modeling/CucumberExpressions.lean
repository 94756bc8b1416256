import CucumberExpressions.Cursor
import CucumberExpressions.Fixture.Check
import CucumberExpressions.Fixture.Load
import CucumberExpressions.Proofs.Canonical
import CucumberExpressions.Proofs.Conforming
import CucumberExpressions.Proofs.Escaping
import CucumberExpressions.Proofs.LayoutNotices
import CucumberExpressions.Proofs.LayoutTree
import CucumberExpressions.Proofs.Literal
import CucumberExpressions.Proofs.Loading
import CucumberExpressions.Proofs.NormalData
import CucumberExpressions.Proofs.Reports
import CucumberExpressions.Proofs.SpaceSplit
import CucumberExpressions.Proofs.Fusion
import CucumberExpressions.Proofs.BracketLayout
import CucumberExpressions.Proofs.EscapedSpace
import CucumberExpressions.Proofs.Erasure
import CucumberExpressions.Proofs.Roles
import CucumberExpressions.Proofs.Locality
import CucumberExpressions.Proofs.Operations
import CucumberExpressions.Proofs.Increments
import CucumberExpressions.Proofs.ProblemPlaces
import CucumberExpressions.Proofs.NodeFields
import CucumberExpressions.Proofs.BrokenRules
import CucumberExpressions.Proofs.Rearranged
import CucumberExpressions.Proofs.LoadOrder
import CucumberExpressions.Proofs.Streaming
import CucumberExpressions.Proofs.Inside
import CucumberExpressions.Proofs.NameOrder
import CucumberExpressions.Proofs.OwnPath
import CucumberExpressions.Proofs.LongestMatch
import CucumberExpressions.Proofs.Scanning
import CucumberExpressions.Fixture.Unfold
import CucumberExpressions.Proofs.Guarded
import CucumberExpressions.Yaml.Reader
