import ClusterRig.Decimal.Rounding
import ClusterRig.Shell.Integer

/-!
# Real numbers in arguments

Reading a real number and printing it with some digits. A number is kept as an exact
quotient that has been rounded to a number of binary digits.
-/

namespace ClusterRig
namespace Shell

/-- A real number as it is read: its sign, and `num / den`, or one of the two values
that are none. -/
inductive Real
  | finite (negative : Bool) (num den : Nat)
  | infinite (negative : Bool)
  | undefined (negative : Bool)

namespace Real

def isNegative : Real → Bool
  | .finite negative _ _ => negative
  | .infinite negative => negative
  | .undefined negative => negative

/-- How numbers are kept: with so many binary digits, and less than two to the power
of `top`. -/
structure Format where
  digits : Nat
  top : Nat

def double : Format := ⟨53, 1024⟩

def extended : Format := ⟨64, 16384⟩

/-- The power of two of which the smallest numbers are multiples, without its sign. -/
def Format.places (f : Format) : Nat := f.top + f.digits - 3

/-- The quotient in a format that is nearest to `num / den`. -/
def rounded (f : Format) (num den : Nat) : Nat × Nat :=
  if num = 0 then (0, 1)
  else
    let up := f.digits + Nat.log2 den + 1 - Nat.log2 num
    let down := max (Nat.log2 (num * Nat.pow 2 up / den) + 1 - f.digits) (up - f.places)
    (Decimal.roundHalfEven (num * Nat.pow 2 up) (den * Nat.pow 2 down) * Nat.pow 2 down,
      Nat.pow 2 up)

/-- The digits of a fraction: those before the point, those after it, and the rest. -/
def mantissa (isDigit : Char → Bool) (s : List Char) : List Char × List Char × List Char :=
  let whole := s.takeWhile isDigit
  match s.dropWhile isDigit with
  | '.' :: rest =>
    let fraction := rest.takeWhile isDigit
    if whole.isEmpty && fraction.isEmpty then ([], [], s)
    else (whole, fraction, rest.dropWhile isDigit)
  | rest => (whole, [], rest)

/-- An exponent after one of two letters, if there is one. -/
def exponent (lower upper : Char) (s : List Char) : Int × List Char :=
  match s with
  | c :: rest =>
    if c == lower || c == upper then
      let (negative, ds) := match rest with
        | '-' :: ds => (true, ds)
        | '+' :: ds => (false, ds)
        | ds => (false, ds)
      let digits := ds.takeWhile Text.isDigit
      if digits.isEmpty then (0, s)
      else
        let n : Int := Text.ofDigits digits
        (if negative then -n else n, ds.drop digits.length)
    else (0, s)
  | [] => (0, [])

/-- Exponents are not looked at beyond this size. -/
def greatestExponent : Int := 5000

/-- The number `n` times a power of a base, and whether it is in the range of a format:
neither too large nor so small that it loses digits. -/
def scaled (f : Format) (negative : Bool) (n : Nat) (base : Nat) (e : Int) : Real × Bool :=
  let e := max (-greatestExponent) (min greatestExponent e)
  let exact := n * base.pow e.toNat
  let scale := base.pow (-e).toNat
  let (num, den) := rounded f exact scale
  if den * Nat.pow 2 f.top ≤ num then (.infinite negative, false)
  else (.finite negative num den, 4 * den ≤ num * Nat.pow 2 f.top || num * scale = exact * den)

/-- What follows a word at the start of a text, without regard to case. -/
def afterWord? (word : String) (s : List Char) : Option (List Char) :=
  if (s.take word.length).map Char.toLower = word.toList then some (s.drop word.length) else none

/-- The number at the start of a text, whether it is in the range of a format, and what
follows it. -/
def read? (f : Format) (s : List Char) : Option ((Real × Bool) × List Char) :=
  let s := s.dropWhile isSpace
  let (negative, s) := match s with
    | '-' :: rest => (true, rest)
    | '+' :: rest => (false, rest)
    | rest => (false, rest)
  match afterWord? "infinity" s, afterWord? "inf" s, afterWord? "nan" s with
  | some rest, _, _ => some ((.infinite negative, true), rest)
  | none, some rest, _ => some ((.infinite negative, true), rest)
  | none, none, some rest => some ((.undefined negative, true), rest)
  | none, none, none =>
    let hexadecimal := match s with
      | '0' :: x :: rest =>
        if x == 'x' || x == 'X' then
          let (whole, fraction, rest) := mantissa isHexadecimal rest
          if whole.isEmpty && fraction.isEmpty then none else some (whole, fraction, rest)
        else none
      | _ => none
    match hexadecimal with
    | some (whole, fraction, rest) =>
      let (e, rest) := exponent 'p' 'P' rest
      some (scaled f negative (Integer.ofDigits 16 (whole ++ fraction)) 2
        (e - 4 * fraction.length), rest)
    | none =>
      let (whole, fraction, rest) := mantissa Text.isDigit s
      if whole.isEmpty && fraction.isEmpty then none
      else
        let (e, rest) := exponent 'e' 'E' rest
        some (scaled f negative (Text.ofDigits (whole ++ fraction)) 10
          (e - fraction.length), rest)

/-- A numeral with at least so many digits. -/
def padded (width n : Nat) : List Char :=
  let ds := Text.decimal n
  List.replicate (width - ds.length) '0' ++ ds

/-- With so many digits after the point. With `point` it is there even if nothing
follows it. -/
def fixed (places : Nat) (point : Bool) (num den : Nat) : List Char :=
  let n := Decimal.roundHalfEven (num * Nat.pow 10 places) den
  let whole := Text.decimal (n / Nat.pow 10 places)
  if places = 0 then (if point then whole ++ ['.'] else whole)
  else whole ++ '.' :: padded places (n % Nat.pow 10 places)

/-- The decimal exponent of a positive quotient. -/
def magnitude (num den : Nat) : Int :=
  if den ≤ num then ((Text.decimal (num / den)).length : Int) - 1
  else
    let below := (Text.decimal (den / num)).length
    if den ≤ num * Nat.pow 10 (below - 1) then -((below : Int) - 1) else -below

/-- A leading digit and so many more, with their decimal exponent. -/
def scientific (places num den : Nat) : Nat × Int :=
  if num = 0 then (0, 0)
  else
    let e := magnitude num den
    let n := Decimal.roundHalfEven (num * Nat.pow 10 ((places : Int) - e).toNat)
      (den * Nat.pow 10 (e - places).toNat)
    if n = Nat.pow 10 (places + 1) then (Nat.pow 10 places, e + 1) else (n, e)

def exponentText (e : Int) : List Char :=
  'e' :: (if e < 0 then '-' else '+') :: padded 2 e.natAbs

/-- With an exponent. -/
def exponential (places : Nat) (point : Bool) (num den : Nat) : List Char :=
  let (n, e) := scientific places num den
  fixed places point n (Nat.pow 10 places) ++ exponentText e

/-- A fraction without the zeros at its end. -/
def trimmed (s : List Char) : List Char :=
  if s.contains '.' then
    let t := (s.reverse.dropWhile (· == '0')).reverse
    if t.getLast? = some '.' then t.dropLast else t
  else s

/-- With so many digits in all, in the shorter of the two ways; zeros at the end are
dropped unless `point`. -/
def general (precision : Nat) (point : Bool) (num den : Nat) : List Char :=
  let p := max 1 precision
  let (n, e) := scientific (p - 1) num den
  let trim (s : List Char) := if point then s else trimmed s
  if -4 ≤ e ∧ e < p then trim (fixed ((p : Int) - 1 - e).toNat point num den)
  else trim (fixed (p - 1) point n (Nat.pow 10 (p - 1))) ++ exponentText e

/-- In hexadecimal digits with a power of two. All digits are given unless `places` says
how many; the first one has as many bits as are left by the others. -/
def hexadecimal (f : Format) (places : Option Nat) (point : Bool) (num den : Nat) : List Char :=
  let all := (f.digits - 1) / 4
  let below := (Nat.log2 den : Int)
  let e : Int := if num = 0 then 0 else max ((Nat.log2 num : Int) - below) (2 - (f.top : Int))
  let shift : Int := (f.digits : Int) - 1 - e
  let n := num * Nat.pow 2 shift.toNat / (den * Nat.pow 2 (-shift).toNat)
  let (n, count) := match places with
    | some p =>
      if p < all then (Decimal.roundHalfEven n (Nat.pow 16 (all - p)), p)
      else (n * Nat.pow 16 (p - all), p)
    | none => (n, all)
  let ds := Nat.toDigits 16 (n % Nat.pow 16 count)
  let fraction := List.replicate (count - ds.length) '0' ++ ds
  let fraction := if count = 0 then [] else match places with
    | some _ => fraction
    | none => (fraction.reverse.dropWhile (· == '0')).reverse
  let e := if num = 0 then 0 else e - ((f.digits - 1) % 4 : Nat)
  let (n, e) := if 16 * Nat.pow 16 count ≤ n then (n / 16, e + 4) else (n, e)
  Nat.toDigits 16 (n / Nat.pow 16 count) ++
    (if fraction.isEmpty && !point then [] else ['.']) ++ fraction
    ++ 'p' :: (if e < 0 then '-' else '+') :: Text.decimal e.natAbs

end Real
end Shell
end ClusterRig
