import ClusterRig.Shell.Classes

/-!
# Integers in arguments

An integer may follow blanks and a sign. Where the base is free, `0x` begins a
hexadecimal and `0` an octal numeral. Values are kept in 64 bits: signed ones are
cut off at the ends of their range, and sums and products wrap around.
-/

namespace ClusterRig
namespace Shell
namespace Integer

/-- The value of a digit in bases up to 16. -/
def digit (c : Char) : Nat :=
  if Text.isDigit c then Text.digitValue c
  else if 'a' ≤ c && c ≤ 'f' then c.toNat - 'a'.toNat + 10
  else if 'A' ≤ c && c ≤ 'F' then c.toNat - 'A'.toNat + 10
  else 16

def ofDigits (base : Nat) (ds : List Char) : Nat := ds.foldl (fun n d => n * base + digit d) 0

/-- The base of a numeral, and its text from the first digit on. -/
def base (free : Bool) (s : List Char) : Nat × List Char :=
  match free, s with
  | true, '0' :: x :: d :: rest =>
    if (x == 'x' || x == 'X') && digit d < 16 then (16, d :: rest) else (8, s)
  | true, '0' :: _ => (8, s)
  | _, _ => (10, s)

/-- The number at the start of a text and what follows it, if there is one. -/
def read? (free : Bool) (s : List Char) : Option (Int × List Char) :=
  let s := s.dropWhile isSpace
  let (negative, s) := match s with
    | '-' :: rest => (true, rest)
    | '+' :: rest => (false, rest)
    | rest => (false, rest)
  let (base, s) := base free s
  let ds := s.takeWhile (digit · < base)
  if ds.isEmpty then none
  else
    let n : Int := ofDigits base ds
    some (if negative then -n else n, s.drop ds.length)

def least : Int := Int64.minValue.toInt

def greatest : Int := Int64.maxValue.toInt

def inRange (n : Int) : Bool := least ≤ n && n ≤ greatest

/-- The nearest number in range. -/
def clamp (n : Int) : Int := max least (min greatest n)

/-- The number in range that agrees with `n` in the last 64 bits. -/
def wrap (n : Int) : Int := (Int64.ofInt n).toInt

/-- The last 64 bits as a natural number. -/
def bits (n : Int) : Nat := (UInt64.ofInt n).toNat

/-- The number that is all of a text but for blanks around it. -/
def whole? (free : Bool) (s : List Char) : Option Int :=
  match read? free s with
  | some (n, rest) => if rest.all isSpace && inRange n then some n else none
  | none => if free && s.all isSpace then some 0 else none

def decimal (n : Int) : List Char :=
  if n < 0 then '-' :: Text.decimal n.natAbs else Text.decimal n.toNat

end Integer
end Shell
end ClusterRig
