import ClusterRig.Text.Numeral

/-!
# Dates and times

A moment has a date, a time or both, and with both also an offset. It is read
from the text that a document has for it and written in one canonical way: a `T`
between date and time, and no zeros at the end of a fraction.
-/

namespace ClusterRig
namespace Toml

structure Date where
  year : Nat
  month : Nat
  day : Nat
  deriving DecidableEq

structure Time where
  hour : Nat
  minute : Nat
  second : Nat
  nanosecond : Nat
  deriving DecidableEq

inductive Offset
  | utc
  | custom (hours : Int) (minutes : Nat)
  deriving DecidableEq

structure Moment where
  date : Option Date
  time : Option Time
  offset : Option Offset
  deriving DecidableEq

namespace Moment

/-- Exactly two digits at the start of a text. -/
def twoDigits : List Char → Option (Nat × List Char)
  | a :: b :: rest => (Text.natural? [a, b]).map fun n => (n, rest)
  | _ => none

/-- A character at the start of a text. -/
def expect (c : Char) : List Char → Option (List Char)
  | d :: rest => if c = d then some rest else none
  | [] => none

def readDate (s : List Char) : Option (Date × List Char) := do
  let (century, s) ← twoDigits s
  let (year, s) ← twoDigits s
  let s ← expect '-' s
  let (month, s) ← twoDigits s
  let s ← expect '-' s
  let (day, s) ← twoDigits s
  if 1 ≤ month && month ≤ 12 && 1 ≤ day && day ≤ 31 then
    some (⟨century * 100 + year, month, day⟩, s)
  else none

/-- The digits after a decimal point in nanoseconds; digits beyond the ninth are
ignored. -/
def fraction : List Char → Option (Nat × List Char)
  | '.' :: s =>
    let ds := s.takeWhile Text.isDigit
    if ds.isEmpty then none
    else
      let nine := ds.take 9
      some (Text.ofDigits nine * Nat.pow 10 (9 - nine.length), s.dropWhile Text.isDigit)
  | s => some (0, s)

/-- A time of day. The hour may be 24. -/
def readTime (s : List Char) : Option (Time × List Char) := do
  let (hour, s) ← twoDigits s
  let s ← expect ':' s
  let (minute, s) ← twoDigits s
  let s ← expect ':' s
  let (second, s) ← twoDigits s
  let (nanosecond, s) ← fraction s
  if hour ≤ 24 && minute ≤ 59 && second ≤ 59 then some (⟨hour, minute, second, nanosecond⟩, s)
  else none

def readOffset : List Char → Option (Option Offset × List Char)
  | [] => some (none, [])
  | 'Z' :: s => some (some .utc, s)
  | c :: s => do
    let negative ← if c = '+' then some false else if c = '-' then some true else none
    let (hours, s) ← twoDigits s
    let s ← expect ':' s
    let (minutes, s) ← twoDigits s
    return (some (.custom (if negative then -hours else hours) minutes), s)

/-- The time after a date, if a separator announces one. -/
def timeAfterDate : List Char → Option (Option Time × List Char)
  | c :: s =>
    if c = 'T' ∨ c = ' ' then (readTime s).map fun (t, s) => (some t, s)
    else some (none, c :: s)
  | [] => some (none, [])

/-- A time alone has a colon after two characters. -/
def isTimeAlone : List Char → Bool
  | _ :: _ :: ':' :: _ => true
  | _ => false

/-- The moment that takes all of a text. -/
def ofText? (s : List Char) : Option Moment :=
  if isTimeAlone s then
    match readTime s with
    | some (t, []) => some ⟨none, some t, none⟩
    | _ => none
  else do
    let (d, s) ← readDate s
    let (t, s) ← timeAfterDate s
    let (o, s) ← if t.isSome then readOffset s else some (none, s)
    if s.isEmpty then some ⟨some d, t, o⟩ else none

/-- A number with zeros before it up to a width. -/
def padded (width n : Nat) : List Char :=
  let ds := Text.decimal n
  List.replicate (width - ds.length) '0' ++ ds

def dateText (d : Date) : List Char :=
  padded 4 d.year ++ '-' :: padded 2 d.month ++ '-' :: padded 2 d.day

def fractionText (nanosecond : Nat) : List Char :=
  if nanosecond = 0 then []
  else '.' :: ((padded 9 nanosecond).reverse.dropWhile (· == '0')).reverse

def timeText (t : Time) : List Char :=
  padded 2 t.hour ++ ':' :: padded 2 t.minute ++ ':' :: padded 2 t.second
    ++ fractionText t.nanosecond

def offsetText : Offset → List Char
  | .utc => ['Z']
  | .custom hours minutes =>
    (if hours < 0 then '-' else '+') :: padded 2 hours.natAbs ++ ':' :: padded 2 minutes

def text (m : Moment) : List Char :=
  (m.date.map dateText).getD [] ++ (if m.date.isSome && m.time.isSome then ['T'] else [])
    ++ (m.time.map timeText).getD [] ++ (m.offset.map offsetText).getD []

end Moment
end Toml
end ClusterRig
