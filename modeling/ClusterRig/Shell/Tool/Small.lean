import ClusterRig.Shell.Condition
import ClusterRig.Shell.Printing
import ClusterRig.Shell.Tool.Options

/-!
# Small programs

Printing, testing and waiting, as programs. They are called by other programs than the
shell, which has commands of its own for the first two.
-/

namespace ClusterRig
namespace Shell
namespace Tool
namespace Small

/-- The options of `echo`: whether a line break ends the text, and whether escapes
count. -/
def echoOptions : Bool → Bool → List (List Char) → Bool × Bool × List (List Char)
  | newline, escapes, ('-' :: c :: s) :: rest =>
    if (c :: s).all ['n', 'e', 'E'].contains then
      let last := (c :: s).reverse.find? (· != 'n')
      echoOptions (newline && !(c :: s).contains 'n') (match last with
        | some d => d == 'e'
        | none => escapes) rest
    else (newline, escapes, ('-' :: c :: s) :: rest)
  | newline, escapes, args => (newline, escapes, args)

/-- In `echo` octal digits follow a zero, or there is no escape. -/
def echo : Program := fun _ args p =>
  let (newline, escapes, args) := echoOptions true false args
  let s := [' '].intercalate args
  let ending : List Char := if newline then ['\n'] else []
  if escapes then
    match Escape.argument .program s with
    | (s, .stopped) => p.print s
    | (s, _) => p.print (s ++ ending)
  else p.print (s ++ ending)

def printf : Program := fun name args p =>
  let args := if args.head? = some ['-', '-'] then args.tail else args
  match args with
  | [] => misuse name "missing operand".toList p 1
  | format :: args =>
    let u := Printing.formatted .program format args
    (u.printed.reverse.foldl (fun p (stream, s) =>
      if stream = .errors then report name s p else p.print s) p).withStatus u.status

/-- Whether a word is a span of time. -/
def isSpan (s : List Char) : Bool :=
  match Real.read? Real.extended s with
  | some ((.finite false _ _, _), rest) =>
    rest.isEmpty || ["s", "m", "h", "d"].contains (String.ofList rest)
  | some ((.infinite false, _), rest) => rest.isEmpty
  | _ => false

/-- Time does not count here, so that nothing happens. -/
def sleep : Program :=
  Tool.program [] true fun name u p =>
    if u.operands.isEmpty then misuse name "missing operand".toList p 1
    else
      match u.operands.filter fun s => !isSpan s with
      | [] => p
      | wrong =>
        let p := wrong.dropLast.foldl (fun p s =>
          report name ("invalid time interval ".toList ++ Quoting.text s) p) p
        misuse name ("invalid time interval ".toList ++ Quoting.text (wrong.getLastD [])) p 1

def test : Program := fun name args p =>
  match Condition.evaluate p.files args with
  | .ok holds => p.withStatus (if holds then 0 else 1)
  | .error what => (report name what p).withStatus 2

/-- A test in brackets. -/
def bracket : Program := fun name args p =>
  match args.getLast? with
  | some [']'] => test name args.dropLast p
  | _ => (report name "missing ']'".toList p).withStatus 2

end Small
end Tool
end Shell
end ClusterRig
