import ClusterRig.Feature.Basic

/-!
# Composing configurations

A composer adds a list of features to a configuration, one after the other, and
stops at the first that fails.
-/

namespace ClusterRig

structure Composer where
  globals : Globals
  features : List Feature

namespace Composer

/-- The composer of the features that the globals enable. -/
def enabled (g : Globals) : Composer := ⟨g, Feature.enabled g⟩

def withFeatures (m : Composer) (features : List Feature) : Composer :=
  { m with features := m.features ++ features }

def compose (m : Composer) (c : NodeConfig) : Except Failure NodeConfig :=
  m.features.foldlM (fun c f => f.addTo c m.globals) c

end Composer
end ClusterRig
