/-!
# Decimal numerals

Reading and writing natural numbers in decimal, and the numerals of unsigned
64-bit words: an optional plus sign and one or more ASCII digits.
-/

namespace ClusterRig
namespace Text

def isDigit (c : Char) : Bool := '0' ≤ c && c ≤ '9'

def digitValue (c : Char) : Nat := c.toNat - '0'.toNat

/-- The number that a list of digits denotes. -/
def ofDigits (ds : List Char) : Nat :=
  ds.foldl (fun n d => n * 10 + digitValue d) 0

def decimal (n : Nat) : List Char := Nat.toDigits 10 n

/-- The number of an unsigned numeral; there must be a digit. -/
def natural? (ds : List Char) : Option Nat :=
  if !ds.isEmpty && ds.all isDigit then some (ofDigits ds) else none

/-- The word of a numeral, if it has at most 64 bits. -/
def word? (s : List Char) : Option UInt64 :=
  let ds := match s with
    | '+' :: rest => rest
    | _ => s
  match natural? ds with
  | some n => if n < UInt64.size then some (UInt64.ofNat n) else none
  | none => none

end Text
end ClusterRig
