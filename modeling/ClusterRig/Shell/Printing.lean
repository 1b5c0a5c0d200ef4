import ClusterRig.Shell.Escape
import ClusterRig.Shell.Process
import ClusterRig.Shell.Quoting
import ClusterRig.Shell.Real

/-!
# Printing commands

What `echo` and `printf` print for their arguments. A format is read directive by
directive, and used again as long as it takes up arguments and some are left. An
argument that is no number is reported and counts as far as it is one.
-/

namespace ClusterRig
namespace Shell
namespace Printing

/-- The text of `echo`, which ends with a line break unless the first argument asks
for none. The program knows no escapes. -/
def echo (printer : Printer) (args : List (List Char)) : List Char :=
  let (args, newline) := match args with
    | ['-', 'n'] :: rest => (rest, ([] : List Char))
    | _ => (args, ['\n'])
  let s := [' '].intercalate args
  match printer with
  | .program => s ++ newline
  | .command =>
    match Escape.argument .command s with
    | (s, .complete) => s ++ newline
    | (s, _) => s

/-- A number in a directive: there, or in an argument. -/
inductive Amount
  | given (n : Nat)
  | argument

/-- A directive of a format. `source` is how it is written, as far as it goes; there is no
kind if the format ends first. -/
structure Directive where
  source : List Char
  flags : List Char
  width : Amount
  precision : Option Amount
  kind : Option Char

def isFlag (printer : Printer) (c : Char) : Bool :=
  ['-', '0', '+', ' ', '#'].contains c || (printer = .program && ['\'', 'I'].contains c)

def amount (s : List Char) : Amount × List Char :=
  match s with
  | '*' :: rest => (.argument, rest)
  | _ => (.given (Text.ofDigits (s.takeWhile Text.isDigit)), s.dropWhile Text.isDigit)

/-- Letters that say how wide an argument is, which is always the same. -/
def isModifier (printer : Printer) (c : Char) : Bool :=
  printer = .program && ['h', 'l', 'L', 'j', 't', 'z'].contains c

/-- The kinds of directives for numbers with a fraction. -/
def isRealKind (c : Char) : Bool := ['a', 'A', 'e', 'E', 'f', 'F', 'g', 'G'].contains c

def isIntegerKind (c : Char) : Bool := ['d', 'i', 'o', 'u', 'x', 'X'].contains c

/-- Whether a flag has a meaning for a kind. -/
def admits (kind flag : Char) : Bool :=
  match flag with
  | '#' => ! ['c', 'd', 'i', 's', 'u'].contains kind
  | '0' => ! ['c', 's'].contains kind
  | '\'' | 'I' => ! ['a', 'A', 'c', 'e', 'E', 'o', 's', 'x', 'X'].contains kind
  | _ => true

/-- Whether a directive has a meaning. The program takes `b` and `q` only alone. -/
def Directive.isKnown (printer : Printer) (d : Directive) : Bool :=
  match printer, d.kind with
  | _, none => false
  | .command, some kind => isRealKind kind || isIntegerKind kind || ['b', 'c', 's'].contains kind
  | .program, some kind =>
    if kind = 'b' || kind = 'q' then d.source.length = 2
    else (isRealKind kind || isIntegerKind kind || kind = 's' || (kind = 'c' && d.precision.isNone))
      && d.flags.all (admits kind)

/-- The directive after a percent sign, and what follows it. -/
def directive (printer : Printer) (s : List Char) : Directive × List Char :=
  let flags := s.takeWhile (isFlag printer)
  let (width, rest) := amount (s.dropWhile (isFlag printer))
  let (precision, rest) := match rest with
    | '.' :: rest =>
      let (n, rest) := amount rest
      (some n, rest)
    | rest => (none, rest)
  let rest := rest.dropWhile (isModifier printer)
  let after := rest.drop 1
  (⟨'%' :: s.take (s.length - after.length), flags, width, precision, rest.head?⟩, after)

/-- What a directive asks for, with the numbers from arguments filled in. -/
structure Style where
  left : Bool
  zeros : Bool
  alternate : Bool
  sign : Option Char
  width : Nat
  precision : Option Nat

def style (flags : List Char) (width : Int) (precision : Option Int) : Style where
  left := flags.contains '-' || width < 0
  zeros := flags.contains '0'
  alternate := flags.contains '#'
  sign := if flags.contains '+' then some '+' else if flags.contains ' ' then some ' ' else none
  width := width.natAbs
  precision := precision.bind fun n => if n < 0 then none else some n.toNat

/-- Fill a text up to the width. With `zeros` they stand between the sign and the
digits. -/
def Style.fill (st : Style) (zeros : Bool) (sign s : List Char) : List Char :=
  let missing := st.width - (sign.length + s.length)
  if st.left then sign ++ s ++ List.replicate missing ' '
  else if zeros then sign ++ List.replicate missing '0' ++ s
  else List.replicate missing ' ' ++ sign ++ s

def Style.signOf (st : Style) (negative : Bool) : List Char :=
  if negative then ['-'] else st.sign.toList

def Style.text (st : Style) (s : List Char) : List Char :=
  st.fill false [] (match st.precision with
    | some n => s.take n
    | none => s)

/-- The digits of an integer without its sign, at least as many as asked for. -/
def Style.digits (st : Style) (ds : List Char) : List Char :=
  match st.precision with
  | some n => if n = 0 && ds = ['0'] then [] else List.replicate (n - ds.length) '0' ++ ds
  | none => ds

def Style.integer (st : Style) (kind : Char) (n : Int) : List Char :=
  let zeros := st.zeros && st.precision.isNone
  match kind with
  | 'd' | 'i' => st.fill zeros (st.signOf (n < 0)) (st.digits (Text.decimal n.natAbs))
  | 'u' => st.fill zeros [] (st.digits (Text.decimal (Integer.bits n)))
  | 'o' =>
    let ds := st.digits (Nat.toDigits 8 (Integer.bits n))
    st.fill zeros [] (if st.alternate && ds.head? != some '0' then '0' :: ds else ds)
  | _ =>
    let ds := st.digits (Nat.toDigits 16 (Integer.bits n))
    let ds := if kind = 'X' then ds.map Char.toUpper else ds
    st.fill zeros (if st.alternate && Integer.bits n != 0 then ['0', kind] else []) ds

/-- The numbers that a printer calculates with. -/
def format : Printer → Real.Format
  | .command => Real.double
  | .program => Real.extended

def Style.real (st : Style) (printer : Printer) (kind : Char) (x : Real) : List Char :=
  let upper (s : List Char) := if kind.isUpper then s.map Char.toUpper else s
  let sign := st.signOf x.isNegative
  match x with
  | .infinite _ => st.fill false sign (upper ['i', 'n', 'f'])
  | .undefined _ => st.fill false sign (upper ['n', 'a', 'n'])
  | .finite _ num den =>
    let p := st.precision.getD 6
    match kind.toLower with
    | 'a' =>
      st.fill st.zeros (sign ++ upper ['0', 'x'])
        (upper (Real.hexadecimal (format printer) st.precision st.alternate num den))
    | 'f' => st.fill st.zeros sign (Real.fixed p st.alternate num den)
    | 'e' => st.fill st.zeros sign (upper (Real.exponential p st.alternate num den))
    | _ => st.fill st.zeros sign (upper (Real.general p st.alternate num den))

/-- A format as it is being used: the arguments that are left, what has been printed
so far, the latest first, the status, and whether nothing may follow. -/
structure Use where
  args : List (List Char)
  printed : List (Stream × List Char)
  status : Nat
  ended : Bool

namespace Use

def print (u : Use) (s : List Char) : Use := { u with printed := (.output, s) :: u.printed }

def warn (u : Use) (what : List Char) : Use :=
  { u with printed := (.errors, what) :: u.printed, status := 1 }

/-- Stop for a reason. -/
def fail (u : Use) (what : List Char) (status : Nat) : Use :=
  { u.warn what with status, ended := true }

/-- Stop where an escape says so, which the program takes for success. -/
def stop (printer : Printer) (u : Use) : Use :=
  { u with ended := true, status := if printer = .program then 0 else u.status }

def next (u : Use) : Option (List Char) × Use := (u.args.head?, { u with args := u.args.tail })

/-- Report an argument of which only the part before `rest` is a number. -/
def checked (printer : Printer) (arg : List Char) (rest : Option (List Char)) (fits : Bool)
    (u : Use) : Use :=
  match printer, rest with
  | .command, none => u.warn (arg ++ ": expected numeric value".toList)
  | .command, some (_ :: _) => u.warn (arg ++ ": not completely converted".toList)
  | .command, some [] =>
    if fits then u else u.warn (arg ++ ": Numerical result out of range".toList)
  | .program, none => u.warn (Quoting.text arg ++ ": expected a numeric value".toList)
  | .program, some rest =>
    if !fits then u.warn (Quoting.text arg ++ ": Numerical result out of range".toList)
    else if rest.isEmpty then u
    else u.warn (Quoting.text arg ++ ": value not completely converted".toList)

/-- The number of a character after a quote. -/
def quotedValue (printer : Printer) (arg : List Char) (u : Use) : Option (Nat × Use) :=
  match arg with
  | q :: rest =>
    if q == '\'' || q == '"' then
      match printer, rest with
      | .program, [] => none
      | .program, c :: d :: more =>
        some (c.toNat, { u with
          printed := (.errors, "warning: ".toList ++ d :: more
            ++ ": character(s) following character constant have been ignored".toList)
            :: u.printed })
      | _, rest => some ((rest.headD '\x00').toNat, u)
    else none
  | [] => none

/-- The integer of the next argument. What does not fit is cut off at the ends of the
range, for a signed number or one without sign. -/
def integer (printer : Printer) (signed : Bool) (u : Use) : Int × Use :=
  match u.next with
  | (none, u) => (0, u)
  | (some arg, u) =>
    match quotedValue printer arg u with
    | some (n, u) => (n, u)
    | none =>
      match Integer.read? true arg with
      | none =>
        (0, if arg.isEmpty then u else u.checked printer arg none true)
      | some (n, rest) =>
        let fits := if signed then Integer.inRange n else n.natAbs < UInt64.size
        let n := if signed then Integer.clamp n else if fits then n else UInt64.size - 1
        (n, u.checked printer arg (some rest) fits)

def real (printer : Printer) (u : Use) : Real × Use :=
  match u.next with
  | (none, u) => (.finite false 0 1, u)
  | (some arg, u) =>
    match quotedValue printer arg u with
    | some (n, u) => (.finite false n 1, u)
    | none =>
      match Real.read? (format printer) arg with
      | none =>
        (.finite false 0 1,
          if arg.isEmpty then u else u.checked printer arg none true)
      | some ((x, fits), rest) => (x, u.checked printer arg (some rest) fits)

/-- The greatest width and precision. -/
def widest : Int := Int32.maxValue.toInt

/-- A number cut to 32 bits. -/
def narrow (n : Int) : Int := (Int32.ofInt n).toInt

/-- The number for a width or a precision; a program refuses those that are too large.
A precision can be as far below zero as it likes. -/
def amount (printer : Printer) (isPrecision : Bool) (u : Use) : Amount → Int × Use
  | .given n => (n, u)
  | .argument =>
    let (n, v) := u.integer printer true
    match printer with
    | .command => (narrow n, v)
    | .program =>
      if n ≤ widest && (isPrecision || -widest ≤ n) then (n, v)
      else
        let what := if isPrecision then "precision" else "field width"
        (0, v.fail ("invalid ".toList ++ what.toList ++ ": ".toList
          ++ Quoting.text (u.args.headD [])) 1)

def noNumber : List Char := "missing hexadecimal number in escape".toList

/-- What is said of a width or precision that is too large to be printed. -/
def tooWide : Printer → List Char × Nat
  | .command => ("xvsnprintf failed".toList, 2)
  | .program => ("write error".toList, 1)

/-- What is said of a directive that has no meaning. -/
def refused (printer : Printer) (d : Directive) : List Char × Nat :=
  match printer, d.kind with
  | .command, some _ => (d.source ++ ": invalid directive".toList, 2)
  | .command, none => ("missing format character".toList, 2)
  | .program, _ => (d.source ++ ": invalid conversion specification".toList, 1)

/-- Print what a directive of a kind stands for. -/
def convertTo (printer : Printer) (kind : Char) (style : Style) (u : Use) : Use :=
  if isIntegerKind kind then
    let (n, u) := u.integer printer (kind = 'd' || kind = 'i')
    u.print (style.integer kind n)
  else if isRealKind kind then
    let (x, u) := u.real printer
    u.print (style.real printer kind x)
  else
    let (given, u) := u.next
    let arg := given.getD []
    match kind with
    | 'c' => u.print (style.fill false [] (if arg.isEmpty then ['\x00'] else arg.take 1))
    | 'b' =>
      match Escape.argument printer arg with
      | (s, .complete) => u.print (style.text s)
      | (s, .stopped) => (u.print (style.text s)).stop printer
      | (s, .noNumber) => (u.print (style.text s)).fail noNumber 1
    | 'q' => u.print (given.elim [] (Quoting.word))
    | _ => u.print (style.text arg)

/-- Print what a directive stands for. -/
def convert (printer : Printer) (d : Directive) (u : Use) : Use :=
  let (width, u) := u.amount printer false d.width
  if u.ended then u
  else
    let (precision, u) := match d.precision with
      | some a =>
        let (n, u) := u.amount printer true a
        (some n, u)
      | none => (none, u)
    if u.ended then u
    else
      match d.isKnown printer, d.kind with
      | true, some kind =>
        if widest < width.natAbs || precision.any (widest < ·) then
          u.fail (tooWide printer).1 (tooWide printer).2
        else u.convertTo printer kind (style d.flags width precision)
      | _, _ => u.fail (refused printer d).1 (refused printer d).2

/-- Go through a format once. -/
def pass (printer : Printer) : Nat → List Char → Use → Use
  | 0, _, u => u
  | _, [], u => u
  | fuel + 1, '%' :: '%' :: rest, u => pass printer fuel rest (u.print ['%'])
  | fuel + 1, '%' :: rest, u =>
    let (d, rest) := directive printer rest
    let u := u.convert printer d
    if u.ended then u else pass printer fuel rest u
  | fuel + 1, '\\' :: rest, u =>
    match Escape.meaning printer false rest with
    | .chars s rest => pass printer fuel rest (u.print s)
    | .stop => u.stop printer
    | .noNumber => u.fail noNumber 1
  | fuel + 1, c :: rest, u => pass printer fuel rest (u.print [c])

/-- Go through a format until no argument is left or it takes up none. -/
def passes (printer : Printer) (format : List Char) : Nat → Use → Use
  | 0, u => u
  | fuel + 1, u =>
    let v := u.pass printer (format.length + 1) format
    if v.ended || v.args.isEmpty then v
    else if v.args.length < u.args.length then passes printer format fuel v
    else
      match printer, v.args with
      | .program, arg :: _ =>
        { v with printed := (.errors,
            "warning: ignoring excess arguments, starting with ".toList ++ Quoting.text arg)
            :: v.printed }
      | _, _ => v

end Use

/-- What a format prints for some arguments. -/
def formatted (printer : Printer) (format : List Char) (args : List (List Char)) : Use :=
  Use.passes printer format (args.length + 1) ⟨args, [], 0, false⟩

end Printing
end Shell
end ClusterRig
