import PodPlacement.Affinity.Basic
import PodPlacement.AppendNew
import PodPlacement.Base64
import PodPlacement.Cluster.Basic
import PodPlacement.Cluster.Environment
import PodPlacement.Command.FileTree
import PodPlacement.Command.Line
import PodPlacement.Command.Output
import PodPlacement.Command.Program
import PodPlacement.Command.Surroundings
import PodPlacement.Constraints
import PodPlacement.Decimal.Shortest
import PodPlacement.Format.Affinity
import PodPlacement.Format.Cluster
import PodPlacement.Format.LabelMap
import PodPlacement.Format.Node
import PodPlacement.Format.Spec
import PodPlacement.Format.Toleration
import PodPlacement.JobSpec
import PodPlacement.Json.Printer
import PodPlacement.Json.Reader
import PodPlacement.LabelMap
import PodPlacement.Main
import PodPlacement.Mode
import PodPlacement.Placement
import PodPlacement.PodSpec
import PodPlacement.PriorityClass
import PodPlacement.Report
import PodPlacement.Run
import PodPlacement.Source
import PodPlacement.SystemError
import PodPlacement.Text.Segments
import PodPlacement.Toleration
import PodPlacement.Proofs.FirstOccurrences
import PodPlacement.Proofs.LabelMap
import PodPlacement.Proofs.Toleration
import PodPlacement.Proofs.Source
import PodPlacement.Proofs.Affinity.Pruning
import PodPlacement.Proofs.Affinity.Content
import PodPlacement.Proofs.Affinity.Merging
import PodPlacement.Proofs.Constraints.Content
import PodPlacement.Proofs.Constraints.ModeChange
import PodPlacement.Proofs.Constraints.Growth
import PodPlacement.Proofs.Constraints.Selection
import PodPlacement.Proofs.Placement.Enriched
import PodPlacement.Proofs.Placement.Expression
import PodPlacement.Proofs.Placement.Reselection
import PodPlacement.Proofs.Json.Number
import PodPlacement.Proofs.Json.Quoted
import PodPlacement.Proofs.Json.Printed
import PodPlacement.Proofs.Json.Record
import PodPlacement.Proofs.Format.Affinity
import PodPlacement.Proofs.Format.Spec
import PodPlacement.Proofs.Affinity.Meaning
import PodPlacement.Proofs.Command.Output
import PodPlacement.Proofs.Constraints.Admission
import PodPlacement.Proofs.Affinity.Collapsed
import PodPlacement.Proofs.Placement.Collapsed
import PodPlacement.Proofs.Format.Cluster
import PodPlacement.Proofs.PodSpec.Calls
import PodPlacement.Proofs.Base64
import PodPlacement.Proofs.Text.Padded
import PodPlacement.Proofs.Cluster.Environment
import PodPlacement.Proofs.Report
import PodPlacement.Proofs.Independence
import PodPlacement.Proofs.Constraints.Unrelated
import PodPlacement.Proofs.Placement.Folding
import PodPlacement.Proofs.Affinity.Repeats
import PodPlacement.Proofs.Constraints.Pruning
import PodPlacement.Proofs.Toleration.OrderedSet
import PodPlacement.Proofs.PodSpec.Refusal
import PodPlacement.Proofs.Affinity.Terms
import PodPlacement.Proofs.Affinity.Canonical
import PodPlacement.Proofs.Cluster.Values
import PodPlacement.Proofs.Cluster.Names
import PodPlacement.Proofs.Cluster.Settings
import PodPlacement.Proofs.Base64.Canonical
import PodPlacement.Proofs.Cluster.Loading
import PodPlacement.Proofs.LabelMap.Pointwise
