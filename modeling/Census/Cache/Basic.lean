import Census.Cache.Sketch
import Census.Failure.Basic
import Census.Hash.Blake2b
import Census.Table
import Census.Text.Utf8
/-! A cache with a budget of costs. Values live in shards by the hash of their key; the costs of
the resident keys are kept in one table. New keys wait in a buffer, and requests of keys are
collected before they reach the frequency sketch. -/
namespace Census

/-- A value in the cache: as it was given, or computed at a time. -/
inductive Stored (β : Type)
  | plain (value : β)
  | entry (payload : β) (time : Float)
deriving DecidableEq

structure PendingSet (β : Type) where
  key : String
  hash : UInt64
  value : Stored β
  cost : Int

structure CacheMetrics where
  hits : Nat := 0
  misses : Nat := 0
  keysAdded : Nat := 0
  keysUpdated : Nat := 0
  keysEvicted : Nat := 0
  setsRejected : Nat := 0
deriving DecidableEq, Repr

structure CacheConfig where
  counters : Int
  maxCost : Int
  bufferItems : Int
deriving DecidableEq, Repr

structure CacheSizes where
  counters : Nat
  maxCost : Int
  bufferItems : Nat
  counters_pos : 0 < counters
  maxCost_pos : 0 < maxCost
  bufferItems_pos : 0 < bufferItems

def shardCount : Nat := 64

structure Cache (β σ : Type) where
  sizes : CacheSizes
  shards : Vector (Table (Stored β)) shardCount
  sketch : Sketch
  costs : Table Int
  usedCost : Int
  reads : List UInt64
  pending : List (PendingSet β)
  metrics : CacheMetrics
  closed : Bool
  random : σ

namespace CacheConfig

def sizes (c : CacheConfig) : Except Failure CacheSizes :=
  if hc : c.counters ≤ 0 then .error (.cacheSize .counters)
  else if hm : c.maxCost ≤ 0 then .error (.cacheSize .cost)
  else if hb : c.bufferItems ≤ 0 then .error (.cacheSize .buffer)
  else .ok
    { counters := c.counters.toNat
      maxCost := c.maxCost
      bufferItems := c.bufferItems.toNat
      counters_pos := by omega
      maxCost_pos := by omega
      bufferItems_pos := by omega }

end CacheConfig

namespace Cache

variable {β σ : Type}

def keyHash (key : String) : UInt64 :=
  Hash.Blake2b.digest (Text.Utf8.encode key.toList)

def shardOf (hash : UInt64) : Fin shardCount :=
  ⟨hash.toNat % shardCount, Nat.mod_lt _ (by decide)⟩

def ofSketch (sizes : CacheSizes) (sketch : Sketch) (random : σ) : Cache β σ where
  sizes := sizes
  shards := Vector.replicate shardCount []
  sketch := sketch
  costs := []
  usedCost := 0
  reads := []
  pending := []
  metrics := {}
  closed := false
  random := random

def readLimitOf (bufferItems : Nat) : Nat :=
  4 * bufferItems

/-- A new cache. There must be room for its sketch, and its requests must be countable. -/
def make [RandomSource σ] (config : CacheConfig) (random : σ) : Except Failure (Cache β σ) := do
  let sizes ← config.sizes
  Sketch.room sizes.counters
  if Sketch.countLimit < readLimitOf sizes.bufferItems then throw .bufferLength
  let (sketch, random) := Sketch.make sizes.counters random
  return ofSketch sizes sketch random

def place (c : Cache β σ) (key : String) (hash : UInt64) (value : Stored β) : Cache β σ :=
  { c with shards := c.shards.set (shardOf hash) (c.shards[shardOf hash].put key value) }

def lookup (c : Cache β σ) (key : String) : Option (Stored β) :=
  c.shards[shardOf (keyHash key)].get? key

def resident (c : Cache β σ) (key : String) : Bool :=
  c.costs.has key

def drainReads (c : Cache β σ) : Cache β σ :=
  { c with sketch := c.reads.foldl Sketch.increment c.sketch, reads := [] }

def readLimit (c : Cache β σ) : Nat :=
  readLimitOf c.sizes.bufferItems

/-- Collects a request. The requests are fed to the sketch once there are enough of them, unless
another caller is at work on the costs. -/
def recordAccess (c : Cache β σ) (contended : Bool) (hash : UInt64) : Cache β σ :=
  let reads := c.reads ++ [hash]
  let c := { c with reads := reads.drop (reads.length - c.readLimit) }
  if c.reads.length < c.sizes.bufferItems ∨ contended then c else c.drainReads

def countLookup (c : Cache β σ) (found : Bool) : Cache β σ :=
  { c with
    metrics :=
      if found then { c.metrics with hits := c.metrics.hits + 1 }
      else { c.metrics with misses := c.metrics.misses + 1 } }

/-- Looks a key up; `contended` while another caller is at work on the costs. -/
def get (c : Cache β σ) (key : String) (contended : Bool) : Option (Stored β) × Cache β σ :=
  if c.closed then (none, c)
  else
    let found := c.lookup key
    (found, (c.recordAccess contended (keyHash key)).countLookup found.isSome)

def update (c : Cache β σ) (key : String) (hash : UInt64) (value : Stored β) (cost : Int) :
    Cache β σ :=
  let c' := c.place key hash value
  { c' with
    usedCost := c.usedCost + (cost - (c.costs.get? key).getD 0)
    costs := c.costs.put key cost
    metrics := { c.metrics with keysUpdated := c.metrics.keysUpdated + 1 } }

def remove (c : Cache β σ) (key : String) : Cache β σ :=
  match c.costs.get? key with
  | none => c
  | some cost =>
    let shard := shardOf (keyHash key)
    { c with
      costs := c.costs.remove key
      usedCost := c.usedCost - cost
      shards := c.shards.set shard (c.shards[shard].remove key) }

def reject (c : Cache β σ) : Cache β σ :=
  { c with metrics := { c.metrics with setsRejected := c.metrics.setsRejected + 1 } }

def clear (c : Cache β σ) : Cache β σ :=
  { c with
    shards := Vector.replicate shardCount []
    sketch := c.sketch.clear
    costs := []
    usedCost := 0
    reads := []
    pending := [] }

def close (c : Cache β σ) : Cache β σ :=
  { c.clear with closed := true }

def delete (c : Cache β σ) (key : String) : Cache β σ :=
  { c with pending := c.pending.filter (·.key != key) }.remove key

def residents (c : Cache β σ) : List (String × Int) :=
  c.costs

end Cache

end Census
