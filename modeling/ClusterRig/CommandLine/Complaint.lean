import ClusterRig.Failure
import ClusterRig.Unicode.Visible

/-!
# Complaints

The line with which a failed command ends. Failures that callers tell apart are
shown as records with quoted fields, other failures found by checks as a record
with their message, and the rest by their message alone.
-/

namespace ClusterRig
namespace CommandLine

/-- A number in hexadecimal. -/
def hexadecimal (n : Nat) : List Char := Nat.toDigits 16 n

def quotedChar (c : Char) : List Char :=
  match c with
  | '"' => ['\\', '"']
  | '\\' => ['\\', '\\']
  | '\n' => ['\\', 'n']
  | '\r' => ['\\', 'r']
  | '\t' => ['\\', 't']
  | '\x00' => ['\\', '0']
  | c =>
    if Unicode.isVisible c then [c]
    else '\\' :: 'u' :: '\x7b' :: (hexadecimal c.toNat ++ ['\x7d'])

/-- A text in quotes, with escapes for what cannot be seen. -/
def quoted (s : String) : String := String.ofList ('"' :: (s.toList.flatMap quotedChar ++ ['"']))

def field (f : String × String) : String := f.1 ++ ": " ++ quoted f.2

/-- A record with a name and quoted fields. -/
def record (name : String) (fields : List (String × String)) : String :=
  name ++ " \x7b " ++ ", ".intercalate (fields.map field) ++ " \x7d"

/-- The mark before a complaint. -/
def mark : String := "Error: "

/-- The part of a text after its last line break, less the mark at its start. -/
def lastLine (s : String) : String :=
  let line := (s.toList.reverse.takeWhile (· != '\n')).reverse
  String.ofList (if mark.toList.isPrefixOf line then line.drop mark.length else line)

def complaint (e : Failure) : String :=
  match e with
  | .optionDisabled option => record "ConfigMisuse" [("option", option)]
  | .invalidGlobal path flaw =>
    record "InvalidGlobal" [("path", Failure.dotted path), ("reason", flaw.reason)]
  | .beanNotFound node pattern domain =>
    record "AttributeNotFound" [("node", node), ("pattern", pattern), ("domain", domain)]
  | .valueMissing bean attr => record "NoValue" [("bean", bean), ("attribute", attr)]
  | .unknownOption _ | .readingsOverflow _ | .commandEmpty | .sessionFailed _ _ _ | .endpoint _
  | .nodeUnnamed | .nodeWithoutTarget _ => record "ErrorMessage" [("msg", e.message)]
  | .globalsMalformed | .globalsUnreadable _ | .patternInvalid _ | .readingNotNumeric _ _ _ _
  | .programMissing _ | .scriptUnread | .snippetMalformed _ | .snippetUnreadable _
  | .directoryUnreadable _ | .directoryEntryUnreadable => lastLine e.message

end CommandLine
end ClusterRig
