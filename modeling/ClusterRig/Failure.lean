import ClusterRig.Tree.Printer

/-!
# Failures

Everything that can go wrong, by cause. `Failure.message` is the one place where
a failure is put into words.
-/

namespace ClusterRig

/-- What is wrong with a value found in the globals. -/
inductive Flaw
  | notUnsigned (found : Tree)
  | notText (found : Tree)
  | portOutOfRange (port : UInt64)
  deriving DecidableEq

inductive Failure
  /-- An option with parameters is folded in although the globals do not enable it. -/
  | optionDisabled (option : String)
  | invalidGlobal (path : List String) (flaw : Flaw)
  | globalsMalformed
  | globalsUnreadable (source : String)
  | unknownOption (text : String)
  | beanNotFound (node : String) (pattern : String) (domain : String)
  | patternInvalid (pattern : String)
  | valueMissing (bean : String) (attr : String)
  | readingNotNumeric (node : String) (attr : String) (raw : String) (bean : String)
  | readingsOverflow (node : String)
  | commandEmpty
  | programMissing (program : String)
  | scriptUnread
  | sessionFailed (node : String) (status : Nat) (complaint : String)
  /-- The failure that an endpoint held in memory is set up to give. -/
  | endpoint (text : String)
  | snippetMalformed (path : String)
  | snippetUnreadable (path : String)
  | directoryUnreadable (directory : String)
  /-- The list of a directory breaks off. -/
  | directoryEntryUnreadable
  | nodeUnnamed
  | nodeWithoutTarget (node : String)
  deriving DecidableEq

namespace Flaw

def reason : Flaw → String
  | .notUnsigned found => s!"expected unsigned integer, found {found.toJson}"
  | .notText found => s!"expected string, found {found.toJson}"
  | .portOutOfRange port => s!"port {port.toNat} out of range"

end Flaw

namespace Failure

/-- The path of a global as messages show it. -/
def dotted (path : List String) : String := ".".intercalate path

def message : Failure → String
  | .optionDisabled option => s!"option '{option}' is not enabled in globals"
  | .invalidGlobal path flaw => s!"invalid global '{dotted path}': {flaw.reason}"
  | .globalsMalformed => "failed to parse globals JSON"
  | .globalsUnreadable source => s!"failed to read globals file '{source}'"
  | .unknownOption text => s!"unsupported option '{text}'"
  | .beanNotFound node pattern domain =>
    s!"no mbean matching '{pattern}' in domain '{domain}' on node '{node}'"
  | .patternInvalid pattern => s!"invalid mbean pattern '{pattern}'"
  | .valueMissing bean attr => s!"attribute '{attr}' of mbean '{bean}' has no value"
  | .readingNotNumeric node attr raw bean =>
    s!"node '{node}': non-numeric {attr} '{raw}' for '{bean}'"
  | .readingsOverflow node => s!"node '{node}': peak heap usage overflow"
  | .commandEmpty => "empty jmxterm command"
  | .programMissing program => s!"failed to spawn '{program}'"
  | .scriptUnread => "failed to write jmxterm script"
  | .sessionFailed node status complaint =>
    s!"jmxterm on node '{node}' failed (exit status: {status}): {complaint}"
  | .endpoint text => text
  | .snippetMalformed path => s!"failed to parse TOML in '{path}'"
  | .snippetUnreadable path => s!"failed to read file '{path}'"
  | .directoryUnreadable directory => s!"failed to read '{directory}'"
  | .directoryEntryUnreadable => "failed to read directory entry"
  | .nodeUnnamed => "node with empty name"
  | .nodeWithoutTarget node => s!"node '{node}' has no management target"

end Failure
end ClusterRig
