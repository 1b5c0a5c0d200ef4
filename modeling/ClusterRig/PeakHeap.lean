import ClusterRig.Decimal.Binary64
import ClusterRig.Endpoint.Client
import ClusterRig.Text.Numeral

/-!
# Peak heap usage

The heap of a node has three pools, each with a bean of its own. The peak usage
of the node is the sum of theirs, and a cluster is read node by node, up to the
first that fails.
-/

namespace ClusterRig
namespace PeakHeap

/-- The domain of the pools. -/
def domain : String := "java.lang"

/-- The attribute that holds the peak usage of a pool, in bytes. -/
def attr : String := "PeakUsage.used"

/-- What the name of each pool ends with. -/
def pools : List String :=
  ["G1 Eden Space,type=MemoryPool", "G1 Old Gen,type=MemoryPool",
    "G1 Survivor Space,type=MemoryPool"]

/-- The pattern of a pool. -/
def pattern (pool : String) : String := ".*" ++ pool

/-- The number that a value denotes. -/
def reading (node bean raw : String) : Except Failure UInt64 :=
  match Text.word? raw.toList with
  | some n => .ok n
  | none => .error (.readingNotNumeric node attr raw bean)

/-- A sum, which must have at most 64 bits. -/
def plus (node : String) (a b : UInt64) : Except Failure UInt64 :=
  if a.toNat + b.toNat < UInt64.size then .ok (a + b) else .error (.readingsOverflow node)

/-- The peak usage that a bean shows. -/
def beanBytes (bean : String) : Client UInt64 := do
  let values ← .values bean attr
  let raw ← .ofExcept values.first
  .named fun node => reading node bean raw

/-- The peak usage of one pool. -/
def poolBytes (pool : String) : Client UInt64 := do
  beanBytes (← .findBean (pattern pool) none domain)

/-- Add the peak usage of a pool to a total. -/
def addPool (total : UInt64) (pool : String) : Client UInt64 := do
  let n ← poolBytes pool
  .named fun node => plus node total n

/-- The peak usage of a node, in bytes. -/
def nodeBytes : Client UInt64 := pools.foldlM addPool 0

/-- The bytes of a gibibyte. -/
def gibibyte : Nat := 1024 * 1024 * 1024

open Decimal in
/-- Bytes in gibibytes, in hundredths of which a half goes up. Each step is
rounded to 53 bits. -/
def gibibytes (bytes : UInt64) : Magnitude :=
  let hundred := Magnitude.ofNat 100
  let gib := (Magnitude.ofNat bytes.toNat).div (Magnitude.ofNat gibibyte)
  (gib.mul hundred).round.div hundred

/-- The peak usage of a node, in gibibytes. -/
def nodeGibibytes : Client Decimal.Magnitude := do return gibibytes (← nodeBytes)

/-- Read every endpoint in order and collect what is read by name. -/
def collect {α : Type} (endpoints : List Endpoint) (read : Endpoint → Traced α) :
    Traced (SortedMap α) :=
  endpoints.foldlM (fun m e => do return m.insert e.name (← read e)) SortedMap.empty

/-- The peak usage of every node, in gibibytes. -/
def cluster (endpoints : List Endpoint) : Traced (SortedMap Decimal.Magnitude) :=
  collect endpoints nodeGibibytes

end PeakHeap
end ClusterRig
