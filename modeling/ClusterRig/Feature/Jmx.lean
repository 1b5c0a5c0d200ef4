import ClusterRig.Feature.Opencensus

/-!
# JMX metrics

An exporter without parameters. Adding it cannot fail.
-/

namespace ClusterRig
namespace Jmx

def key : String := "jmx"

def exporterClass : String := "org.apache.ignite.spi.metric.jmx.JmxMetricExporterSpi"

def isEnabled (g : Globals) : Bool := g.isEnabled ["metrics", key, "enabled"]

def addTo (c : NodeConfig) : NodeConfig :=
  (c.withDefaultMetricsFrequency Opencensus.defaultFrequency).withExporter
    (Bean.named exporterClass)

end Jmx
end ClusterRig
