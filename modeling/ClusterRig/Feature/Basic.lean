import ClusterRig.Feature.Jmx
import ClusterRig.Feature.Opencensus
import ClusterRig.Feature.Ssl

/-!
# Features

The optional features of a configuration. The globals say which of them are
enabled, and each can be added to a configuration.
-/

namespace ClusterRig

inductive Feature
  | opencensus
  | jmx
  | ssl
  deriving DecidableEq

namespace Feature

def all : List Feature := [.opencensus, .jmx, .ssl]

def key : Feature → String
  | .opencensus => Opencensus.key
  | .jmx => Jmx.key
  | .ssl => Ssl.key

def ofKey (text : String) : Except Failure Feature :=
  match all.find? fun f => f.key == text with
  | some f => .ok f
  | none => .error (.unknownOption text)

def isEnabled (g : Globals) : Feature → Bool
  | .opencensus => Opencensus.isEnabled g
  | .jmx => Jmx.isEnabled g
  | .ssl => Ssl.isEnabled g

def enabled (g : Globals) : List Feature := all.filter (isEnabled g)

def addTo (c : NodeConfig) (g : Globals) : Feature → Except Failure NodeConfig
  | .opencensus => Opencensus.addTo c g
  | .jmx => .ok (Jmx.addTo c)
  | .ssl => Ssl.addTo c g

end Feature
end ClusterRig
