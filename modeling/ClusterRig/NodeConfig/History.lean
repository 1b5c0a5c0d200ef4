import ClusterRig.Feature.Basic

/-!
# Histories of a configuration

A step is one update; a history is a list of them. A step that fails leaves the
configuration as it was, and the history goes on.
-/

namespace ClusterRig
namespace NodeConfig

inductive Step
  | setFrequency (millis : UInt64)
  | defaultFrequency (millis : UInt64)
  | exporter (b : Bean)
  | extension (e : Extension)
  | defaultSsl (p : SslParams)
  | connector (k : ClientConnector)
  | feature (f : Feature) (g : Globals)

def Step.apply (c : NodeConfig) : Step → Except Failure NodeConfig
  | .setFrequency millis => .ok (c.withMetricsFrequency millis)
  | .defaultFrequency millis => .ok (c.withDefaultMetricsFrequency millis)
  | .exporter b => .ok (c.withExporter b)
  | .extension e => .ok (c.withExtension e)
  | .defaultSsl p => .ok (c.withDefaultSslParams p)
  | .connector k => .ok (c.withClientConnector k)
  | .feature f g => f.addTo c g

/-- The configuration after a step, whether it failed or not. -/
def after (c : NodeConfig) (s : Step) : NodeConfig :=
  match s.apply c with
  | .ok c' => c'
  | .error _ => c

def run (c : NodeConfig) (history : List Step) : NodeConfig := history.foldl after c

end NodeConfig
end ClusterRig
