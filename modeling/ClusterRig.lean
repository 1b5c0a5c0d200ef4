import ClusterRig.Main
import ClusterRig.NodeConfig.History
import ClusterRig.Proofs.FirstFailure
import ClusterRig.Proofs.Globals.LastWriter
import ClusterRig.Proofs.Globals.Documented
import ClusterRig.Proofs.Feature.Effect
import ClusterRig.Proofs.Composer.Enabled
import ClusterRig.Proofs.Composer.Order
import ClusterRig.Proofs.NodeConfig.Metrics
import ClusterRig.Proofs.NodeConfig.Ssl
import ClusterRig.Proofs.NodeConfig.Opencensus
import ClusterRig.Proofs.Endpoint.Values
import ClusterRig.Proofs.Text.Numeral
import ClusterRig.Proofs.Endpoint.Resolution
import ClusterRig.Proofs.Pattern.Literal
import ClusterRig.Proofs.PeakHeap.Outcome
import ClusterRig.Proofs.Pattern.LastOccurrence
import ClusterRig.Proofs.PeakHeap.Rendered
import ClusterRig.Proofs.PeakHeap.Collect
import ClusterRig.Proofs.PeakHeap.Coverage
import ClusterRig.Proofs.Session.Script
import ClusterRig.Proofs.Shell.Launch
import ClusterRig.Proofs.Globals.Regroup
import ClusterRig.Proofs.Settings.Repeated
import ClusterRig.Proofs.Settings.Selection
import ClusterRig.Proofs.Composer.Agreement
import ClusterRig.Proofs.Endpoint.NameText
import ClusterRig.Proofs.Decimal.Binary64
import ClusterRig.Proofs.PeakHeap.Gibibytes
import ClusterRig.Proofs.Bean
import ClusterRig.Proofs.Endpoint.Reading
import ClusterRig.Proofs.NodeConfig.Exporters
