import ClusterRig.FileSystem
import ClusterRig.Globals.Basic
import ClusterRig.Toml.Document

/-!
# Snippets

A snippet is one file of settings. Each part of it may be left out, and what it
does not know is ignored. A record may be written as a table or, without keys, as
an array of all its fields.
-/

namespace ClusterRig

/-- What a snippet says about sessions. -/
structure SessionSnippet where
  command : Option (List String)
  remoteShell : Option (List String)
  deriving DecidableEq

/-- What a snippet says about a node. -/
structure NodeSnippet where
  name : String
  host : Option String
  target : Option String
  deriving DecidableEq

structure Snippet where
  session : Option SessionSnippet
  nodes : Option (List NodeSnippet)
  globals : Option Globals
  deriving DecidableEq

namespace Snippet

open Toml

def string? : Value → Option String
  | .text s => some s
  | _ => none

def list? {α : Type} (item? : Value → Option α) : Value → Option (List α)
  | .array items => items.mapM item?
  | _ => none

/-- The entries of a table. A date or time is a table with its text in it. -/
def entries? : Value → Option Entries
  | .table _ es => some es
  | .moment written => some [(momentKey, .text (String.ofList written))]
  | _ => none

/-- The field of a record, which may be absent but not repeated. -/
def field? {α : Type} (es : Entries) (key : String) (value? : Value → Option α) :
    Option (Option α) :=
  match es.filter fun e => e.1 == key with
  | [] => some none
  | [(_, v)] => (value? v).map some
  | _ => none

def session? (v : Value) : Option SessionSnippet :=
  match v with
  | .array [command, remoteShell] => do
    return ⟨some (← list? string? command), some (← list? string? remoteShell)⟩
  | _ => do
    let es ← entries? v
    return ⟨← field? es "command" (list? string?), ← field? es "remote_shell" (list? string?)⟩

def node? (v : Value) : Option NodeSnippet :=
  match v with
  | .array [name, host, target] => do
    return ⟨← string? name, some (← string? host), some (← string? target)⟩
  | _ => do
    let es ← entries? v
    let name ← ← field? es "name" string?
    return ⟨name, ← field? es "host" string?, ← field? es "target" string?⟩

def globals? (v : Value) : Option Globals := v.tree?.map Globals.ofTree

def ofEntries? (es : Entries) : Option Snippet := do
  return ⟨← field? es "jmx" session?, ← field? es "nodes" (list? node?),
    ← field? es "globals" globals?⟩

/-- The snippet that a file holds. Its globals may be any value. -/
def ofBytes? (content : List UInt8) : Option Snippet := do
  ofEntries? (← Toml.parse? ["globals"] (← Text.Utf8.decode? content))

end Snippet
end ClusterRig
