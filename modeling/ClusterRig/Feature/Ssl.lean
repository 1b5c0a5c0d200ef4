import ClusterRig.Globals.Basic
import ClusterRig.NodeConfig.Basic

/-!
# Encrypted connections

Key and trust stores of the two roles, taken from the globals under
`ssl.params`. A node gets the stores of its own role; a client connector that
has no encryption yet gets those of the client role.
-/

namespace ClusterRig
namespace Ssl

def key : String := "ssl"

/-- Whose certificate it is. -/
inductive Role
  | server
  | client
  deriving DecidableEq

namespace Role

def key : Role → String
  | .server => "server"
  | .client => "client"

def defaultKeyStore : Role → String
  | .server => "server.jks"
  | .client => "client.jks"

end Role

def defaultPassword : String := "123456"

def defaultTrustStore : String := "truststore.jks"

def path (role : Role) (field : String) : List String := [key, "params", role.key, field]

def isEnabled (g : Globals) : Bool := g.isEnabled [key, "enabled"]

def field (g : Globals) (role : Role) (name byDefault : String) : Except Failure String := do
  return (← g.lookupText (path role name)).getD byDefault

/-- The stores that the globals give, regardless of whether they enable them. -/
def params (g : Globals) (role : Role) : Except Failure SslParams := do
  let keyStore ← field g role "key_store_jks" role.defaultKeyStore
  let keyStorePassword ← field g role "key_store_password" defaultPassword
  let trustStore ← field g role "trust_store_jks" defaultTrustStore
  let trustStorePassword ← field g role "trust_store_password" defaultPassword
  return ⟨keyStore, keyStorePassword, trustStore, trustStorePassword⟩

def ofGlobals (g : Globals) (role : Role) : Except Failure (Option SslParams) :=
  if isEnabled g then (params g role).map some else .ok none

/-- The stores, which the globals have to enable. -/
def required (g : Globals) (role : Role) : Except Failure SslParams := do
  match ← ofGlobals g role with
  | none => .error (.optionDisabled key)
  | some p => .ok p

/-- The role of a configured node. -/
def roleOf (c : NodeConfig) : Role := if c.clientMode then .client else .server

/-- The connector after encryption is asked for, if that changes it. -/
def upgrade (g : Globals) : Option ClientConnector → Except Failure (Option ClientConnector)
  | none => .ok none
  | some k =>
    if k.sslEnabled then .ok none
    else do
      let p ← required g .client
      return some { k with sslEnabled := true, sslParams := some p }

def addTo (c : NodeConfig) (g : Globals) : Except Failure NodeConfig := do
  let p ← required g (roleOf c)
  let c' := c.withDefaultSslParams p
  match ← upgrade g c.clientConnector with
  | none => return c'
  | some k => return c'.withClientConnector k

end Ssl
end ClusterRig
