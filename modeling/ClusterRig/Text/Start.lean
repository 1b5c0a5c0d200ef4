/-!
# The start of a text

Whether a text starts in a given way, and what follows if it does.
-/

namespace ClusterRig
namespace Text

/-- The rest of a text after its start, if it starts so. -/
def after? : List Char → List Char → Option (List Char)
  | [], s => some s
  | c :: start, d :: s => if c = d then after? start s else none
  | _ :: _, [] => none

end Text
end ClusterRig
