import ClusterRig.Endpoint.Basic
import ClusterRig.Pattern.Basic

/-!
# Finding a bean

A bean is found by a pattern: the listed lines are tried in order, and the first
one in which the pattern matches gives the bean, whose name is the match without
the blanks around it. A second pattern can rule names out.
-/

namespace ClusterRig
namespace Endpoint

def compile (pattern : String) : Except Failure Pattern :=
  match Pattern.compile? pattern with
  | some p => .ok p
  | none => .error (.patternInvalid pattern)

/-- The bean that a line names, unless it is ruled out. -/
def candidate? (p : Pattern) (without : Option Pattern) (line : String) : Option String :=
  match p.find? line.toList with
  | none => none
  | some found =>
    let name := Text.trim found
    if without.any fun n => n.matchesIn name then none else some (String.ofList name)

/-- The name of the first admissible bean of a domain. That the beans cannot be
listed counts as finding none. -/
def findBean (e : Endpoint) (pattern : String) (without : Option String) (domain : String) :
    Traced String := do
  let p ← .ofExcept (compile pattern)
  let n ← .ofExcept (without.mapM compile)
  let listed ← (e.ask (.beans domain)).attempt
  let found := listed.toOption.bind fun lines => lines.findSome? (candidate? p n)
  match found with
  | some name => pure name
  | none => .fail (.beanNotFound e.name pattern domain)

end Endpoint
end ClusterRig
