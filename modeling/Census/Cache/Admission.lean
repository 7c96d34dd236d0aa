import Census.Cache.Basic
/-! Admission of new keys. While the budget is exceeded, the least requested key of a small sample
of the residents makes room, unless the new key is requested even less. -/
namespace Census.Cache

variable {β σ : Type}

def sampleSize : Nat := 5

def leastBy (score : String → Nat) : String → List String → String
  | best, [] => best
  | best, x :: xs => if score x < score best then leastBy score x xs else leastBy score best xs

def frequency (c : Cache β σ) (key : String) : Nat :=
  c.sketch.estimate (keyHash key)

def evict (c : Cache β σ) (key : String) : Cache β σ :=
  let c := c.remove key
  { c with metrics := { c.metrics with keysEvicted := c.metrics.keysEvicted + 1 } }

/-- The key that should go next: the least requested of a sample of the residents. -/
def victim? [RandomSource σ] (c : Cache β σ) : Option String × Cache β σ :=
  let (sample, random) := RandomSource.sample (min sampleSize c.costs.length) c.costs.names c.random
  let c := { c with random := random }
  match sample with
  | [] => (none, c)
  | x :: xs => (some (leastBy c.frequency x xs), c)

/-- Evicts until a cost fits or nothing is left. The answer is false if a key that should go is
requested more often than the new one. -/
def makeRoom [RandomSource σ] (incoming : Nat) (cost : Int) :
    (fuel : Nat) → Cache β σ → Bool × Cache β σ
  | 0, c => (true, c)
  | fuel + 1, c =>
    if c.usedCost + cost ≤ c.sizes.maxCost ∨ c.costs.isEmpty then (true, c)
    else match c.victim? with
      | (none, c) => (true, c)
      | (some victim, c) =>
        if incoming < c.frequency victim then (false, c.reject)
        else makeRoom incoming cost fuel (c.evict victim)

def enter (c : Cache β σ) (p : PendingSet β) : Cache β σ :=
  let c' := c.place p.key p.hash p.value
  { c' with
    costs := c.costs.put p.key p.cost
    usedCost := c.usedCost + p.cost
    metrics := { c.metrics with keysAdded := c.metrics.keysAdded + 1 } }

/-- Decides on a key that is not resident; every eviction takes one of the residents. -/
def consider [RandomSource σ] (c : Cache β σ) (p : PendingSet β) : Cache β σ :=
  match makeRoom (c.sketch.estimate p.hash) p.cost c.costs.length c with
  | (true, c) => c.enter p
  | (false, c) => c

def settle [RandomSource σ] (c : Cache β σ) (p : PendingSet β) : Cache β σ :=
  if c.resident p.key then c.update p.key p.hash p.value p.cost else c.consider p

/-- Takes in all waiting values in their order, after the collected requests. Nothing waits in a
closed cache and nothing closes the cache meanwhile, so no value needs to be dropped for that. -/
def wait [RandomSource σ] (c : Cache β σ) : Cache β σ :=
  match c.pending with
  | [] => c
  | pending => pending.foldl settle { c with pending := [] }.drainReads

/-- Offers a value; the answer tells whether it was accepted. Nothing is accepted by a closed
cache or beyond the whole budget. -/
def set [RandomSource σ] (c : Cache β σ) (key : String) (value : Option (Stored β)) (cost : Int) :
    Bool × Cache β σ :=
  match value with
  | none => (false, c)
  | some value =>
    if c.closed then (false, c)
    else if c.sizes.maxCost < cost then (false, c.reject)
    else
      let cost := max cost 1
      let hash := keyHash key
      if c.resident key then (true, c.update key hash value cost)
      else
        let c := { c with pending := c.pending ++ [⟨key, hash, value, cost⟩] }
        (true, if c.sizes.bufferItems ≤ c.pending.length then c.wait else c)

end Census.Cache
