import ClusterRig.Bean

/-!
# Node configurations

The configuration of one node or client. Every update takes a configuration and
gives the next one: settings replace, defaults fill what is unset, exporters form
a set, and of extensions with one name the first stays.
-/

namespace ClusterRig

/-- Parameters of the OpenCensus exporter; `name` identifies the bundle. -/
structure OpencensusParams where
  period : UInt64
  port : UInt16
  name : String
  deriving DecidableEq

/-- An extension record: a template and the parameters to fill it with. -/
structure Extension where
  template : String
  params : OpencensusParams
  deriving DecidableEq

namespace Extension

def name (e : Extension) : String := e.params.name

end Extension

/-- Key store and trust store of one role. -/
structure SslParams where
  keyStore : String
  keyStorePassword : String
  trustStore : String
  trustStorePassword : String
  deriving DecidableEq

/-- The connector for thin clients. -/
structure ClientConnector where
  port : UInt16 := 10800
  sslEnabled : Bool := false
  sslParams : Option SslParams := none
  deriving DecidableEq

structure NodeConfig where
  clientMode : Bool := false
  metricsFrequency : Option UInt64 := none
  exporters : SortedSet Bean.compare := SortedSet.empty
  extensions : List Extension := []
  sslParams : Option SslParams := none
  clientConnector : Option ClientConnector := none
  deriving DecidableEq

namespace NodeConfig

/-- The configuration of a server node before anything is set. -/
def server : NodeConfig := {}

/-- The configuration of a client before anything is set. -/
def client : NodeConfig := { clientMode := true }

def hasExtension (c : NodeConfig) (name : String) : Bool :=
  c.extensions.any fun e => e.name == name

def withMetricsFrequency (c : NodeConfig) (millis : UInt64) : NodeConfig :=
  { c with metricsFrequency := some millis }

def withDefaultMetricsFrequency (c : NodeConfig) (millis : UInt64) : NodeConfig :=
  { c with metricsFrequency := some (c.metricsFrequency.getD millis) }

def withExporter (c : NodeConfig) (b : Bean) : NodeConfig :=
  { c with exporters := c.exporters.insert b }

/-- Append an extension, unless there is one of its name. -/
def withExtension (c : NodeConfig) (e : Extension) : NodeConfig :=
  if c.hasExtension e.name then c else { c with extensions := c.extensions ++ [e] }

def withDefaultSslParams (c : NodeConfig) (p : SslParams) : NodeConfig :=
  { c with sslParams := some (c.sslParams.getD p) }

def withClientConnector (c : NodeConfig) (k : ClientConnector) : NodeConfig :=
  { c with clientConnector := some k }

end NodeConfig
end ClusterRig
