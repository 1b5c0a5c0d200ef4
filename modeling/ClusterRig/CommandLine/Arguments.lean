import ClusterRig.Feature.Basic

/-!
# Arguments

The arguments name one of two commands and then its options. An option takes all
arguments after it that do not begin with a hyphen, or exactly one after an equals
sign; a flag takes none.
-/

namespace ClusterRig
namespace CommandLine

inductive Command
  /-- Compose a configuration from globals; without features, from those enabled. -/
  | compose (sources : List String) (features : List Feature) (client : Bool)
      (directories : List String)
  /-- Read the peak heap usage of every node. -/
  | peakHeap (directories : List String)
  deriving DecidableEq

/-- The names of the options and flags of a command. -/
structure Signature where
  options : List String
  flags : List String

/-- An option is named, or one of its values is given. -/
inductive Item
  | named (name : String)
  | value (option text : String)
  deriving DecidableEq

/-- A lone hyphen is a value like any other. -/
def isValue (arg : String) : Bool := !arg.startsWith "-" || arg == "-"

/-- The name in an argument, and the value after an equals sign if there is one.
More than one equals sign counts as one. -/
def nameAndValue (arg : String) : String × Option String :=
  let s := arg.toList.dropWhile (· == '-')
  let name := String.ofList (s.takeWhile (· != '='))
  match s.dropWhile (· != '=') with
  | [] => (name, none)
  | rest => (name, some (String.ofList (rest.dropWhile (· == '='))))

/-- The items of the arguments, the first of which may be values of the option
`current`. After two hyphens alone nothing may follow. -/
def items (sig : Signature) (current : Option String) : List String → Option (List Item)
  | [] => some []
  | arg :: rest =>
    if isValue arg then
      match current with
      | some option => (items sig current rest).map (.value option arg :: ·)
      | none => none
    else if arg = "--" then
      if rest.isEmpty then some [] else none
    else if arg.startsWith "--" then
      let (name, value) := nameAndValue arg
      if sig.options.contains name then
        match value with
        | some text => (items sig none rest).map ([.named name, .value name text] ++ ·)
        | none => (items sig (some name) rest).map (.named name :: ·)
      else if sig.flags.contains name then (items sig none rest).map (.named name :: ·)
      else none
    else none

/-- The values given for an option. -/
def valuesOf (option : String) (given : List Item) : List String :=
  given.filterMap fun
    | .value o text => if o = option then some text else none
    | .named _ => none

/-- An option that is named has a value, and a flag is named only once. -/
def wellGiven (sig : Signature) (given : List Item) : Bool :=
  (sig.options.all fun o => !given.contains (.named o) || !(valuesOf o given).isEmpty)
    && sig.flags.all fun f => given.count (.named f) ≤ 1

def composeSignature : Signature := ⟨["globals", "option", "config-dir"], ["client"]⟩

def peakHeapSignature : Signature := ⟨["config-dir"], []⟩

def given? (sig : Signature) (args : List String) : Option (List Item) :=
  (items sig none args).filter (wellGiven sig)

/-- The command that the arguments ask for. -/
def parse? : List String → Option Command
  | "compose" :: args => do
    let given ← given? composeSignature args
    let features ← (valuesOf "option" given).mapM fun key => (Feature.ofKey key).toOption
    return .compose (valuesOf "globals" given) features (given.contains (.named "client"))
      (valuesOf "config-dir" given)
  | "peak-heap" :: args => do
    let given ← given? peakHeapSignature args
    return .peakHeap (valuesOf "config-dir" given)
  | _ => none

end CommandLine
end ClusterRig
