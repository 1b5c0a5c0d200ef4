import ClusterRig.Decimal.Literal
import ClusterRig.Text.Start
import ClusterRig.Tree.Basic

/-!
# Reading trees from JSON

The reader takes one value with blanks around it and nothing else. A step of it
returns what it read together with the rest of the text. Objects keep their
entries as written; `Tree.canon` settles repeated keys.
-/

namespace ClusterRig
namespace Tree
namespace Reader

/-- The four characters allowed between tokens. -/
def isSpace (c : Char) : Bool := c == ' ' || c == '\t' || c == '\n' || c == '\r'

def skip (s : List Char) : List Char := s.dropWhile isSpace

def hexValue? (c : Char) : Option Nat :=
  if '0' ≤ c && c ≤ '9' then some (c.toNat - '0'.toNat)
  else if 'a' ≤ c && c ≤ 'f' then some (c.toNat - 'a'.toNat + 10)
  else if 'A' ≤ c && c ≤ 'F' then some (c.toNat - 'A'.toNat + 10)
  else none

def hexUnit? (a b c d : Char) : Option Nat := do
  return (((← hexValue? a) * 16 + (← hexValue? b)) * 16 + (← hexValue? c)) * 16 + (← hexValue? d)

def isHighSurrogate (u : Nat) : Bool := 0xD800 ≤ u && u < 0xDC00

def isLowSurrogate (u : Nat) : Bool := 0xDC00 ≤ u && u < 0xE000

/-- The characters of a string after its opening quote. Escapes of characters
beyond 16 bits come in pairs, and half a pair is refused. -/
def stringBody : List Char → Option (List Char × List Char)
  | [] => none
  | '"' :: rest => some ([], rest)
  | '\\' :: 'u' :: a :: b :: c :: d :: rest => do
    let u ← hexUnit? a b c d
    if isLowSurrogate u then none
    else if isHighSurrogate u then
      match rest with
      | '\\' :: 'u' :: e :: f :: g :: h :: rest => do
        let v ← hexUnit? e f g h
        if isLowSurrogate v then
          let (body, rest) ← stringBody rest
          return (Char.ofNat (0x10000 + (u - 0xD800) * 0x400 + (v - 0xDC00)) :: body, rest)
        else none
      | _ => none
    else
      let (body, rest) ← stringBody rest
      return (Char.ofNat u :: body, rest)
  | '\\' :: c :: rest => do
    let c ← match c with
      | '"' => some '"'
      | '\\' => some '\\'
      | '/' => some '/'
      | 'b' => some '\x08'
      | 'f' => some '\x0c'
      | 'n' => some '\n'
      | 'r' => some '\r'
      | 't' => some '\t'
      | _ => none
    let (body, rest) ← stringBody rest
    return (c :: body, rest)
  | c :: rest => do
    if c.toNat < 0x20 || c == '\\' then none
    else
      let (body, rest) ← stringBody rest
      return (c :: body, rest)

def string (s : List Char) : Option (String × List Char) :=
  match s with
  | '"' :: rest => (stringBody rest).map fun (body, rest) => (String.ofList body, rest)
  | _ => none

/-- A whole number; minus zero and what does not fit into 64 bits is a double. -/
def wholeNumber (negative : Bool) (digits : List Char) : Option Number :=
  let n := Text.ofDigits digits
  if negative then
    if 0 < n && n ≤ UInt64.size / 2 then some (.negative (Int64.ofInt (-n)))
    else (Decimal.Binary64.ofLiteral? true digits [] 0).map .double
  else if n < UInt64.size then some (.natural (UInt64.ofNat n))
  else (Decimal.Binary64.ofLiteral? false digits [] 0).map .double

/-- The digits after a decimal point, if there is one. -/
def fractionPart : List Char → Option (List Char × List Char)
  | '.' :: rest =>
    let digits := rest.takeWhile Text.isDigit
    if digits.isEmpty then none else some (digits, rest.dropWhile Text.isDigit)
  | s => some ([], s)

/-- The exponent, if there is one. -/
def exponentPart : List Char → Option (Option Int × List Char)
  | c :: rest =>
    if c == 'e' || c == 'E' then
      let (negative, rest) := match rest with
        | '+' :: rest => (false, rest)
        | '-' :: rest => (true, rest)
        | _ => (false, rest)
      let digits := rest.takeWhile Text.isDigit
      if digits.isEmpty then none
      else
        let n : Int := Text.ofDigits digits
        some (some (if negative then -n else n), rest.dropWhile Text.isDigit)
    else some (none, c :: rest)
  | [] => some (none, [])

def number (s : List Char) : Option (Number × List Char) := do
  let (negative, s) := match s with
    | '-' :: rest => (true, rest)
    | _ => (false, s)
  let digits := s.takeWhile Text.isDigit
  if digits.isEmpty || (digits.length != 1 && digits.head? == some '0') then none
  else
    let (after, rest) ← fractionPart (s.dropWhile Text.isDigit)
    let (exponent, rest) ← exponentPart rest
    let n ←
      if after.isEmpty && exponent.isNone then wholeNumber negative digits
      else (Decimal.Binary64.ofLiteral? negative digits after (exponent.getD 0)).map .double
    return (n, rest)

/-- The items of an array that has at least one, up to its closing bracket. -/
def items (value : List Char → Option (Tree × List Char)) :
    Nat → List Char → Option (List Tree × List Char)
  | 0, _ => none
  | fuel + 1, s => do
    let (t, rest) ← value (skip s)
    match skip rest with
    | ',' :: rest =>
      let (ts, rest) ← items value fuel rest
      return (t :: ts, rest)
    | ']' :: rest => return ([t], rest)
    | _ => none

/-- The entries of an object that has at least one, up to its closing brace. -/
def entries (value : List Char → Option (Tree × List Char)) :
    Nat → List Char → Option (List (String × Tree) × List Char)
  | 0, _ => none
  | fuel + 1, s => do
    let (key, rest) ← string (skip s)
    match skip rest with
    | ':' :: rest =>
      let (t, rest) ← value (skip rest)
      match skip rest with
      | ',' :: rest =>
        let (es, rest) ← entries value fuel rest
        return ((key, t) :: es, rest)
      | '\x7d' :: rest => return ([(key, t)], rest)
      | _ => none
    | _ => none

/-- A value that is no array and no object. -/
def scalar (s : List Char) : Option (Tree × List Char) :=
  match s with
  | 'n' :: _ => (Text.after? ['n', 'u', 'l', 'l'] s).map fun rest => (.null, rest)
  | 't' :: _ => (Text.after? ['t', 'r', 'u', 'e'] s).map fun rest => (.bool true, rest)
  | 'f' :: _ => (Text.after? ['f', 'a', 'l', 's', 'e'] s).map fun rest => (.bool false, rest)
  | '"' :: _ => (string s).map fun (t, rest) => (.text t, rest)
  | _ => (number s).map fun (n, rest) => (.number n, rest)

/-- A value in which arrays and objects are nested at most `depth` deep. -/
def value : Nat → List Char → Option (Tree × List Char)
  | 0, s => scalar s
  | depth + 1, s =>
    match s with
    | '[' :: rest =>
      match skip rest with
      | ']' :: rest => some (.array [], rest)
      | rest => (items (value depth) rest.length rest).map fun (ts, rest) => (.array ts, rest)
    | '\x7b' :: rest =>
      match skip rest with
      | '\x7d' :: rest => some (.object [], rest)
      | rest => (entries (value depth) rest.length rest).map fun (es, rest) => (.object es, rest)
    | _ => scalar s

/-- Arrays and objects may be nested this deep. -/
def maxDepth : Nat := 127

end Reader

/-- The tree of a JSON text. -/
def parse? (text : String) : Option Tree := do
  let (t, rest) ← Reader.value Reader.maxDepth (Reader.skip text.toList)
  if (Reader.skip rest).isEmpty then some t else none

end Tree
end ClusterRig
