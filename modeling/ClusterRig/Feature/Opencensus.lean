import ClusterRig.Globals.Basic
import ClusterRig.NodeConfig.Basic

/-!
# OpenCensus metrics

The exporter with its parameters, taken from the globals under
`metrics.opencensys`.
-/

namespace ClusterRig
namespace Opencensus

def key : String := "opencensys"

def path (field : String) : List String := ["metrics", key, field]

def exporterClass : String :=
  "org.apache.ignite.spi.metric.opencensus.OpenCensusMetricExporterSpi"

def template : String := "opencensys_metrics_beans_macro.j2"

/-- The name of the one bundle of parameters. -/
def bundleName : String := "OpencensysMetrics"

def defaultPeriod : UInt64 := 1000

def defaultPort : UInt16 := 8082

/-- How often metrics are updated, in milliseconds, when an exporter needs them. -/
def defaultFrequency : UInt64 := 1000

def isEnabled (g : Globals) : Bool := g.isEnabled (path "enabled")

/-- A port has 16 bits. -/
def port (n : UInt64) : Except Failure UInt16 :=
  if n ≤ 65535 then .ok n.toUInt16
  else .error (.invalidGlobal (path "port") (.portOutOfRange n))

/-- The parameters that the globals give, regardless of whether they enable them. -/
def params (g : Globals) : Except Failure OpencensusParams := do
  let period ← g.lookupUnsigned (path "period")
  let given ← g.lookupUnsigned (path "port")
  let port ← match given with
    | none => pure defaultPort
    | some n => port n
  return ⟨period.getD defaultPeriod, port, bundleName⟩

def ofGlobals (g : Globals) : Except Failure (Option OpencensusParams) :=
  if isEnabled g then (params g).map some else .ok none

def exporter (p : OpencensusParams) : Bean :=
  (Bean.named exporterClass).withProperty "period" (toString p.period.toNat)

def addTo (c : NodeConfig) (g : Globals) : Except Failure NodeConfig := do
  match ← ofGlobals g with
  | none => .error (.optionDisabled key)
  | some p =>
    .ok (((c.withDefaultMetricsFrequency defaultFrequency).withExporter (exporter p)).withExtension
      ⟨template, p⟩)

end Opencensus
end ClusterRig
