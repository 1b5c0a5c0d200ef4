import ClusterRig.NodeConfig.Basic
import ClusterRig.Tree.Basic

/-!
# Configurations as documents

The tree in which a configuration is handed over, with the entries of each object
in a fixed order.
-/

namespace ClusterRig

namespace Tree

def unsigned (n : UInt64) : Tree := .number (.natural n)

/-- The tree of a value that may be absent. -/
def ofOption {α : Type} (f : α → Tree) : Option α → Tree
  | none => .null
  | some a => f a

end Tree

namespace Bean

def document (b : Bean) : Tree :=
  .object [("class_name", .text b.className),
    ("properties", .object (b.properties.entries.map fun p => (p.1, .text p.2)))]

end Bean

namespace Extension

def document (e : Extension) : Tree :=
  .object [("template", .text e.template),
    ("params", .object [("period", .unsigned e.params.period),
      ("port", .unsigned e.params.port.toUInt64), ("name", .text e.params.name)])]

end Extension

namespace SslParams

def document (p : SslParams) : Tree :=
  .object [("key_store_jks", .text p.keyStore), ("key_store_password", .text p.keyStorePassword),
    ("trust_store_jks", .text p.trustStore), ("trust_store_password", .text p.trustStorePassword)]

end SslParams

namespace ClientConnector

def document (k : ClientConnector) : Tree :=
  .object [("port", .unsigned k.port.toUInt64), ("ssl_enabled", .bool k.sslEnabled),
    ("ssl_params", .ofOption SslParams.document k.sslParams)]

end ClientConnector

namespace NodeConfig

def document (c : NodeConfig) : Tree :=
  .object [("client_mode", .bool c.clientMode),
    ("metrics_update_frequency", .ofOption .unsigned c.metricsFrequency),
    ("metric_exporters", .array (c.exporters.elements.map Bean.document)),
    ("ext_beans", .array (c.extensions.map Extension.document)),
    ("ssl_params", .ofOption SslParams.document c.sslParams),
    ("client_connector", .ofOption ClientConnector.document c.clientConnector)]

end NodeConfig
end ClusterRig
