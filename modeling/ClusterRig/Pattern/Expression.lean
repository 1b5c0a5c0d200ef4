import ClusterRig.Pattern.Regex

/-!
# Expressions as written

A pattern as it is written, with the flags in it, and what it comes to under them.
-/

namespace ClusterRig
namespace Pattern

inductive Flag
  | ignoreCase
  | multiLine
  | dotAll
  | swapGreed
  | unicode
  | crlf
  | verbose
  deriving DecidableEq, Repr

/-- The flags that hold at a place of a pattern. Whether it is verbose matters only
to its reading. -/
structure Flags where
  ignoreCase : Bool := false
  multiLine : Bool := false
  dotAll : Bool := false
  swapGreed : Bool := false
  unicode : Bool := true
  crlf : Bool := false

namespace Flags

def set (f : Flags) : Flag × Bool → Flags
  | (.ignoreCase, b) => { f with ignoreCase := b }
  | (.multiLine, b) => { f with multiLine := b }
  | (.dotAll, b) => { f with dotAll := b }
  | (.swapGreed, b) => { f with swapGreed := b }
  | (.unicode, b) => { f with unicode := b }
  | (.crlf, b) => { f with crlf := b }
  | (.verbose, _) => f

def change (f : Flags) (changes : List (Flag × Bool)) : Flags := changes.foldl set f

/-- A set with the case variants of its characters, if case is ignored. -/
def fold (f : Flags) (s : CharSet) : CharSet :=
  if !f.ignoreCase then s else if f.unicode then .anyCase s else .asciiCase s

/-- A set or, after folding, what is not in it. Without Unicode the latter would hold
octets that are no characters. -/
def negate? (f : Flags) (negated : Bool) (s : CharSet) : Option CharSet :=
  if !negated then some (f.fold s)
  else if f.unicode then some (.complement (f.fold s))
  else none

/-- Whether a character can be in a set. -/
def admits (f : Flags) (c : Char) : Bool := f.unicode || c.toNat < 0x80

end Flags

/-- The classes that have a letter of their own. -/
inductive LetterClass
  | digit
  | blank
  | word
  deriving DecidableEq, Repr

namespace LetterClass

def set (f : Flags) : LetterClass → CharSet
  | .digit => if f.unicode then .digit else .asciiDigit
  | .blank => if f.unicode then .blank else .asciiBlank
  | .word => if f.unicode then .word else .asciiWord

end LetterClass

inductive ClassOp
  | intersection
  | difference
  | symmetric
  deriving DecidableEq, Repr

namespace ClassOp

def apply : ClassOp → CharSet → CharSet → CharSet
  | .intersection => .intersection
  | .difference => .difference
  | .symmetric => .symmetric

end ClassOp

/-- A set as written: a class in brackets, what stands in it, or a class by itself. -/
inductive SetExpr
  | literal (c : Char)
  | range (first last : Char)
  | letter (negated : Bool) (l : LetterClass)
  | ascii (negated : Bool) (s : CharSet)
  | property (negated : Bool) (s : CharSet)
  | bracketed (negated : Bool) (e : SetExpr)
  | union (es : List SetExpr)
  | op (o : ClassOp) (a b : SetExpr)

namespace SetExpr

/-- Several items; one is itself. -/
def ofItems : List SetExpr → SetExpr
  | [e] => e
  | es => .union es

mutual

/-- How many levels deep the expression is. -/
def depth : SetExpr → Nat
  | .literal _ | .range _ _ | .letter _ _ | .ascii _ _ | .property _ _ => 0
  | .bracketed _ e => depth e + 1
  | .union es => if es.isEmpty then 0 else depths es + 1
  | .op _ a b => Nat.max (depth a) (depth b) + 1

def depths : List SetExpr → Nat
  | [] => 0
  | e :: es => Nat.max (depth e) (depths es)

end

mutual

/-- The set under flags. -/
def set? (f : Flags) : SetExpr → Option CharSet
  | .literal c => if f.admits c then some (.single c) else none
  | .range a b => if f.admits a && f.admits b then some (.range a b) else none
  | .letter negated l =>
    if !negated then some (l.set f)
    else if f.unicode then some (.complement (l.set f))
    else none
  | .ascii negated s => f.negate? negated s
  | .property negated s => if f.unicode then f.negate? negated s else none
  | .bracketed negated e =>
    match set? f e with
    | some s => f.negate? negated s
    | none => none
  | .union es => (sets? f es).map .unions
  | .op o a b =>
    match set? f a, set? f b with
    | some s, some t => some (o.apply (f.fold s) (f.fold t))
    | _, _ => none

def sets? (f : Flags) : List SetExpr → Option (List CharSet)
  | [] => some []
  | e :: es =>
    match set? f e, sets? f es with
    | some s, some ss => some (s :: ss)
    | _, _ => none

end
end SetExpr

/-- The boundaries of words that a pattern can look at. -/
inductive Boundary
  | either
  | neither
  | start
  | stop
  | startHalf
  | stopHalf
  deriving DecidableEq, Repr

namespace Boundary

def look (ascii : Bool) : Boundary → Look
  | .either => .boundary ascii
  | .neither => .notBoundary ascii
  | .start => .wordStart ascii
  | .stop => .wordEnd ascii
  | .startHalf => .wordStartHalf ascii
  | .stopHalf => .wordEndHalf ascii

end Boundary

inductive Expr
  | empty
  /-- A character; `octet` when it was written by two hexadecimal digits. -/
  | literal (c : Char) (octet : Bool)
  | point
  | caret
  | dollar
  | textStart
  | textEnd
  | boundary (b : Boundary)
  | set (e : SetExpr)
  /-- Flags for what follows, up to the end of the enclosing group. -/
  | flags (changes : List (Flag × Bool))
  | group (captures : Bool) (changes : List (Flag × Bool)) (e : Expr)
  | rep (e : Expr) (min : Nat) (max : Option Nat) (greedy : Bool)
  | cat (es : List Expr)
  | alt (es : List Expr)

namespace Expr

/-- Items one after the other; one is itself. -/
def ofItems : List Expr → Expr
  | [] => .empty
  | [e] => e
  | es => .cat es

def ofBranches : List Expr → Expr
  | [e] => e
  | es => .alt es

mutual

/-- How many levels deep the expression is. -/
def depth : Expr → Nat
  | .empty | .literal _ _ | .point | .caret | .dollar | .textStart | .textEnd | .boundary _
  | .flags _ => 0
  | .set e => e.depth
  | .group _ _ e => depth e + 1
  | .rep e _ _ _ => depth e + 1
  | .cat es => depths es + 1
  | .alt es => depths es + 1

def depths : List Expr → Nat
  | [] => 0
  | e :: es => Nat.max (depth e) (depths es)

end

mutual

/-- Whether the expression has a counted repetition. -/
def counts : Expr → Bool
  | .empty | .literal _ _ | .point | .caret | .dollar | .textStart | .textEnd | .boundary _
  | .set _ | .flags _ => false
  | .group _ _ e => counts e
  | .rep e min max _ => counts e || 1 < min || max.any (1 < ·)
  | .cat es => anyCounts es
  | .alt es => anyCounts es

def anyCounts : List Expr → Bool
  | [] => false
  | e :: es => counts e || anyCounts es

end

/-- A character that stands for itself. Without Unicode an octet must be ASCII, and
only ASCII letters have a case. -/
def literal? (f : Flags) (c : Char) (octet : Bool) : Option Regex :=
  if !f.unicode && octet && 0x80 ≤ c.toNat then none
  else if f.ignoreCase then some (.set (f.fold (.single c)))
  else some (.literal c)

/-- The point: any character but the end of a line, or any at all. -/
def point? (f : Flags) : Option Regex :=
  if !f.unicode then none
  else if f.dotAll then some (.set .any)
  else if f.crlf then some (.set (.complement (.union (.single '\r') (.single '\n'))))
  else some (.set (.complement (.single '\n')))

def lookStart (f : Flags) : Look :=
  if f.multiLine then (if f.crlf then .crlfStart else .lineStart) else .textStart

def lookEnd (f : Flags) : Look :=
  if f.multiLine then (if f.crlf then .crlfEnd else .lineEnd) else .textEnd

mutual

/-- What the expression comes to under flags, and the flags after it. -/
def regex? (f : Flags) : Expr → Option (Regex × Flags)
  | .empty => some (.empty, f)
  | .literal c octet => (literal? f c octet).map fun r => (r, f)
  | .point => (point? f).map fun r => (r, f)
  | .caret => some (.look (lookStart f), f)
  | .dollar => some (.look (lookEnd f), f)
  | .textStart => some (.look .textStart, f)
  | .textEnd => some (.look .textEnd, f)
  | .boundary b => some (.look (b.look (!f.unicode)), f)
  | .set e => (e.set? f).map fun s => (.set s, f)
  | .flags changes => some (.empty, f.change changes)
  | .group captures changes e =>
    match regex? (f.change changes) e with
    | some (r, _) => some (if captures then .group r else r, f)
    | none => none
  | .rep e min max greedy =>
    match regex? f e with
    | some (r, f) => some (r.repeated min max (greedy != f.swapGreed), f)
    | none => none
  | .cat es => (regexes? f es).map fun (rs, f) => (.sequence rs, f)
  | .alt es => (regexes? f es).map fun (rs, f) => (.alternatives rs, f)

/-- Expressions one after the other, each under the flags that those before it leave. -/
def regexes? (f : Flags) : List Expr → Option (List Regex × Flags)
  | [] => some ([], f)
  | e :: es =>
    match regex? f e with
    | some (r, f) => (regexes? f es).map fun (rs, f) => (r :: rs, f)
    | none => none

end
end Expr
end Pattern
end ClusterRig
