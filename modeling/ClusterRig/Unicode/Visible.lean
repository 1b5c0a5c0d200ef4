import ClusterRig.Unicode.Category
import ClusterRig.Unicode.Runs

/-!
# Visible characters

Characters that can be shown as they are: no controls, no separators but the
space, nothing unassigned, nothing that is usually ignored, and no mark that
extends the character before it.
-/

namespace ClusterRig
namespace Unicode

/-- Spacing marks that nevertheless extend the character before them. -/
def spacingExtenders : Runs := Runs.ofLines
  ["9BE 9D7 B3E B57 BBE BD7 CC0 CC2 CC7-CC8 CCA-CCB CD5-CD6 D3E D57 DCF DDF 1715 1734 1B35 1B3B",
   "1B3D 1B43-1B44 1BAA 1BF2-1BF3 302E-302F A953 A9C0 111C0 11235 1133E 1134D 11357 113B8 113C2",
   "113C5 113C7-113C9 113CF 114B0 114BD 115AF 116B6 11930 1193D 11F41 16FF0-16FF1 1D165-1D166",
   "1D16D-1D172"]

/-- Characters without a shape that their category does not give away. -/
def blankLetters : Runs := Runs.ofLines
  ["34F 115F-1160 17B4-17B5 180B-180D 180F 3164 FE00-FE0F FFA0 E0100-E01EF"]

/-- The categories of which no character shows as it is. -/
def hidden : List Category := [.cc, .cf, .cs, .co, .cn, .zl, .zp, .zs, .mn, .me]

def isVisible (c : Char) : Bool :=
  c == ' ' || (!hidden.contains (category c) && !spacingExtenders.has c && !blankLetters.has c)

end Unicode
end ClusterRig
