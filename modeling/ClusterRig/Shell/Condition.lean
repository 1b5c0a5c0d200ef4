import ClusterRig.Shell.Files
import ClusterRig.Shell.Integer

/-!
# Conditions

The conditions of `test` are about texts, integers and files. Words are operators
by their place: one that takes an operand is an ordinary word where none follows.
-/

namespace ClusterRig
namespace Shell
namespace Condition

abbrev Word := List Char

inductive Operator
  | about (name : String)
  | between (name : String)
  | not
  | and
  | or
  | opening
  | closing

def operator? (w : Word) : Option Operator :=
  let s := String.ofList w
  match s with
  | "!" => some .not
  | "-a" => some .and
  | "-o" => some .or
  | "(" => some .opening
  | ")" => some .closing
  | _ =>
    if ["=", "!=", "<", ">", "-eq", "-ne", "-ge", "-gt", "-le", "-lt", "-nt", "-ot",
        "-ef"].contains s then some (.between s)
    else if ["-r", "-w", "-x", "-e", "-f", "-d", "-c", "-b", "-p", "-u", "-g", "-k", "-s", "-t",
        "-z", "-n", "-h", "-O", "-G", "-L", "-S"].contains s then some (.about s)
    else none

def isBetween (w : Word) : Bool :=
  match operator? w with
  | some (.between _) => true
  | _ => false

/-- What a word is before the words that follow it. -/
inductive Role
  | missing
  | operand
  | operator (op : Operator)

def role : List Word → Role
  | [] => .missing
  | w :: rest =>
    match operator? w with
    | some (.about name) =>
      let isOperand := match rest with
        | [] => true
        | [_] => false
        | v :: _ => isBetween v
      if isOperand then .operand else .operator (.about name)
    | some .opening => if rest.isEmpty then .operand else .operator .opening
    | some op => .operator op
    | none => .operand

abbrev Result := Except (List Char)

def number (w : Word) : Result Int :=
  match Integer.whole? false w with
  | some n => .ok n
  | none => .error ("Illegal number: ".toList ++ w)

def missingArgument {α : Type} (op : String) : Result α :=
  .error (op.toList ++ ": argument expected".toList)

/-- Whether a file is there and of a kind. Nothing is known of links and devices but
for the one that is empty. -/
def isFile (files : Files) (name : String) (w : Word) : Bool :=
  match String.ofList w, name with
  | "/dev/null", _ => ["-e", "-r", "-w", "-c"].contains name
  | _, _ =>
    match files.look w, name with
    | .content s, "-s" => !s.isEmpty
    | .content _, _ => ["-e", "-r", "-w", "-f", "-O", "-G"].contains name
    | .directory, _ => ["-e", "-r", "-w", "-x", "-d", "-s", "-O", "-G"].contains name
    | .nothing, _ => false

def about (files : Files) (name : String) (w : Word) : Result Bool :=
  match name with
  | "-z" => .ok w.isEmpty
  | "-n" => .ok (!w.isEmpty)
  | "-t" => do
    let _ ← number w
    return false
  | _ => .ok (isFile files name w)

def between (name : String) (a b : Word) : Result Bool :=
  let numbers (p : Int → Int → Bool) : Result Bool := do return p (← number a) (← number b)
  match name with
  | "=" => .ok (a == b)
  | "!=" => .ok (a != b)
  | "<" => .ok (decide (a < b))
  | ">" => .ok (decide (b < a))
  | "-eq" => numbers (· == ·)
  | "-ne" => numbers (· != ·)
  | "-lt" => numbers fun m n => m < n
  | "-le" => numbers fun m n => m ≤ n
  | "-gt" => numbers fun m n => n < m
  | "-ge" => numbers fun m n => n ≤ m
  | _ => .ok false

mutual

/-- A condition and the words after it. The role of its first word is given. -/
def disjunction (files : Files) : Nat → Role → List Word → Result (Bool × List Word)
  | 0, _, _ => .error "too long".toList
  | fuel + 1, r, ws => do
    let (a, rest) ← conjunction files fuel r ws
    match role rest, rest with
    | .operator .or, _ :: rest =>
      let (b, rest) ← disjunction files fuel (role rest) rest
      return (a || b, rest)
    | _, _ => return (a, rest)

def conjunction (files : Files) : Nat → Role → List Word → Result (Bool × List Word)
  | 0, _, _ => .error "too long".toList
  | fuel + 1, r, ws => do
    let (a, rest) ← negation files fuel r ws
    match role rest, rest with
    | .operator .and, _ :: rest =>
      let (b, rest) ← conjunction files fuel (role rest) rest
      return (a && b, rest)
    | _, _ => return (a, rest)

def negation (files : Files) : Nat → Role → List Word → Result (Bool × List Word)
  | 0, _, _ => .error "too long".toList
  | fuel + 1, .operator .not, _ :: rest => do
    let (a, rest) ← negation files fuel (role rest) rest
    return (!a, rest)
  | fuel + 1, r, ws => primary files fuel r ws

def primary (files : Files) : Nat → Role → List Word → Result (Bool × List Word)
  | 0, _, _ => .error "too long".toList
  | _, .missing, ws => .ok (false, ws)
  | _, _, [] => .ok (false, [])
  | fuel + 1, .operator .opening, _ :: rest =>
    match role rest with
    | .operator .closing => .ok (false, rest.drop 1)
    | r => do
      let (a, rest) ← disjunction files fuel r rest
      match role rest with
      | .operator .closing => return (a, rest.drop 1)
      | _ => throw "closing paren expected".toList
  | _, .operator (.about name), _ :: rest =>
    match rest with
    | [] => missingArgument name
    | w :: rest => do return (← about files name w, rest)
  | _, _, w :: op :: rest =>
    match role (op :: rest), rest with
    | .operator (.between name), [] => missingArgument name
    | .operator (.between name), v :: rest => do return (← between name w v, rest)
    | _, _ => .ok (!w.isEmpty, op :: rest)
  | _, _, [w] => .ok (!w.isEmpty, [])

end

/-- A condition that takes all words. -/
def whole (files : Files) (r : Role) (ws : List Word) : Result Bool := do
  let (a, rest) ← disjunction files (4 * ws.length + 8) r ws
  match ws[ws.length - rest.length - 1]?, rest with
  | some last, _ :: _ =>
    throw ((if last.isEmpty then [] else last ++ [':', ' ']) ++ "unexpected operator".toList)
  | _, _ => return a

/-- A condition and whether it is negated. With three or four words the ones at the ends
can decide what they mean; a second negation found there is the same one. -/
def evaluateAll (files : Files) : Nat → Bool → List Word → Result Bool
  | 0, _, _ => .error "too long".toList
  | _, negated, [] => .ok negated
  | fuel + 1, negated, ws =>
    let plain (r : Role) : Result Bool := do return negated ^^ (← whole files r ws)
    match ws with
    | [w, op, v] =>
      if isBetween op then plain .operand
      else if w = ['('] ∧ v = [')'] then evaluateAll files fuel negated [op]
      else if w = ['!'] then evaluateAll files fuel true [op, v]
      else plain (role ws)
    | [w, a, b, v] =>
      if w = ['('] ∧ v = [')'] then evaluateAll files fuel negated [a, b]
      else if w = ['!'] then evaluateAll files fuel true [a, b, v]
      else plain (role ws)
    | _ => plain (role ws)

def evaluate (files : Files) (ws : List Word) : Result Bool := evaluateAll files 3 false ws

end Condition
end Shell
end ClusterRig
