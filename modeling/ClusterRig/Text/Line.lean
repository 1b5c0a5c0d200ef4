/-!
# Lines

A line ends at a line feed, and one carriage return before the line feed belongs
to the end of the line. What follows the last line feed is a line unless empty.
-/

namespace ClusterRig
namespace Text

/-- A finished line, from its characters in reverse. -/
def finishLine : List Char → List Char
  | '\r' :: rest => rest.reverse
  | reversed => reversed.reverse

/-- The lines of a text that continues a line of which `reversed` was read. -/
def linesFrom (reversed : List Char) : List Char → List (List Char)
  | [] => if reversed.isEmpty then [] else [reversed.reverse]
  | c :: rest =>
    if c = '\n' then finishLine reversed :: linesFrom [] rest
    else linesFrom (c :: reversed) rest

def lines (s : List Char) : List (List Char) := linesFrom [] s

end Text
end ClusterRig
