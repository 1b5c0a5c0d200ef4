import ClusterRig.Shell.Classes

/-!
# Patterns of names

A pattern is matched against a whole text. A star stands for any text, a question
mark for any character, and a set in brackets for any of its characters. A backslash
quotes what follows it.
-/

namespace ClusterRig
namespace Shell

/-- A character of a pattern that may be quoted, in which case it stands for itself. -/
structure Mark where
  quoted : Bool
  char : Char

inductive Glob
  | char (c : Char)
  | one
  | any
  | set (negated : Bool) (members : List (Char → Bool))

namespace Glob

def isPlain (m : Mark) (c : Char) : Bool := !m.quoted && m.char == c

/-- A named class after its opening bracket, and what follows its closing one. -/
def className? (s : List Mark) : Option ((Char → Bool) × List Mark) :=
  match enclosed? [':'] [':', ']'] (s.map Mark.char) with
  | some (name, rest) => (namedClass? name).map fun p => (p, s.drop (s.length - rest.length))
  | none => none

def inRange (a b c : Char) : Bool := a ≤ c && c ≤ b

/-- The members of a set up to its closing bracket, which is an ordinary character
at first. -/
def members : Nat → Bool → List Mark → Option (List (Char → Bool) × List Mark)
  | 0, _, _ => none
  | _, _, [] => none
  | fuel + 1, first, m :: rest =>
    let add (p : Char → Bool) (rest : List Mark) : Option (List (Char → Bool) × List Mark) :=
      (members fuel false rest).map fun (ps, rest) => (p :: ps, rest)
    if isPlain m ']' ∧ !first then some ([], rest)
    else
      match (if isPlain m '[' then className? rest else none), rest with
      | some (p, rest), _ => add p rest
      | none, d :: e :: tail =>
        if isPlain d '-' ∧ !isPlain e ']' then add (inRange m.char e.char) tail
        else add (· == m.char) rest
      | none, rest => add (· == m.char) rest

/-- The pattern of some marks. A bracket that is not closed stands for itself. -/
def ofMarks : List Mark → List Glob
  | [] => []
  | m :: rest => go (rest.length + 1) (m :: rest)
where
  go : Nat → List Mark → List Glob
    | 0, _ => []
    | _, [] => []
    | fuel + 1, m :: rest =>
      if isPlain m '*' then .any :: go fuel rest
      else if isPlain m '?' then .one :: go fuel rest
      else if isPlain m '[' then
        let (negated, inner) := match rest with
          | d :: tail => if isPlain d '!' then (true, tail) else (false, rest)
          | [] => (false, rest)
        match members (inner.length + 1) true inner with
        | some (ps, rest) => .set negated ps :: go fuel rest
        | none => .char '[' :: go fuel rest
      else
        match (if isPlain m '\\' then rest else []) with
        | d :: rest => .char d.char :: go fuel rest
        | [] => .char m.char :: go fuel rest

/-- The ends of a list, the longest first. -/
def tails {α : Type} : List α → List (List α)
  | [] => [[]]
  | a :: rest => (a :: rest) :: tails rest

def accepts : List Glob → List Char → Bool
  | [], s => s.isEmpty
  | .any :: p, s => (tails s).any (accepts p)
  | _ :: _, [] => false
  | .char c :: p, d :: s => c == d && accepts p s
  | .one :: p, _ :: s => accepts p s
  | .set negated ps :: p, d :: s => (ps.any fun f => f d) != negated && accepts p s

/-- The places at which a text can be cut so that the part before the place, or
after it, matches. -/
def cuts (p : List Glob) (atEnd : Bool) (s : List Char) : List Nat :=
  (List.range (s.length + 1)).filter fun n => accepts p (if atEnd then s.drop n else s.take n)

/-- Cut off the shortest or longest part that matches, at the start or the end. -/
def cut (p : List Glob) (atEnd longest : Bool) (s : List Char) : List Char :=
  let found := cuts p atEnd s
  let place := if atEnd == longest then found.head? else found.getLast?
  match place with
  | none => s
  | some n => if atEnd then s.take n else s.drop n

/-- Cut off a part of a list of texts. From the start only the first one is cut, or all
are if the longest part is asked for and the first one matches as a whole; what stands
behind the place of a cut at the end is lost. -/
def cutAll (p : List Glob) (atEnd longest : Bool) (texts : List (List Char)) :
    List (List Char) :=
  let cutAt (n : Nat) : List (List Char) :=
    texts.take n ++ ((texts[n]?).map (cut p true longest)).toList
  let found := (List.range texts.length).filter fun n =>
    !(cuts p true ((texts[n]?).getD [])).isEmpty
  if atEnd then ((if longest then found.head? else found.getLast?).map cutAt).getD texts
  else match texts with
    | [] => []
    | first :: rest =>
      if longest && !rest.isEmpty && accepts p first then [[]]
      else cut p false longest first :: rest

/-- Whether a text of some marks is more than the text itself. -/
def isActive (ms : List Mark) : Bool := ms.any fun m => ['*', '?', '['].any (isPlain m)

end Glob
end Shell
end ClusterRig
