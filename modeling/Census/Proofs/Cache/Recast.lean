import Census.Proofs.Cache.Sound

/-! What a cache never looks at: its values, and its counters, which only add up. A cache whose values
are recast one by one goes the way of the first one, and its callers get the recast values. -/
namespace Census

namespace Table

variable {α β : Type}

def recast (f : α → β) (t : Table α) : Table β :=
  t.map fun entry => (entry.1, f entry.2)

theorem recast_id (t : Table α) : t.recast id = t :=
  List.map_id t

theorem recast_put (f : α → β) (t : Table α) (name : String) (a : α) :
    (t.put name a).recast f = (t.recast f).put name (f a) := by
  induction t with
  | nil => rfl
  | cons entry rest ih =>
    by_cases h : entry.1 = name
    · simp [recast, put, h]
    · simpa [recast, put, h] using ih

theorem recast_remove (f : α → β) (t : Table α) (name : String) :
    (t.remove name).recast f = (t.recast f).remove name := by
  simp [recast, remove, List.filter_map, Function.comp_def]

end Table

namespace CacheMetrics

def add (m n : CacheMetrics) : CacheMetrics where
  hits := m.hits + n.hits
  misses := m.misses + n.misses
  keysAdded := m.keysAdded + n.keysAdded
  keysUpdated := m.keysUpdated + n.keysUpdated
  keysEvicted := m.keysEvicted + n.keysEvicted
  setsRejected := m.setsRejected + n.setsRejected

instance : Add CacheMetrics := ⟨add⟩

theorem zero_add (m : CacheMetrics) : ({} : CacheMetrics) + m = m := by
  change add {} m = m
  simp [add]

theorem add_zero (m : CacheMetrics) : m + {} = m := rfl

end CacheMetrics

namespace Stored

variable {β γ : Type}

def recast (f : β → γ) : Stored β → Stored γ
  | .plain value => .plain (f value)
  | .entry payload time => .entry (f payload) time

theorem recast_id : (recast id : Stored β → Stored β) = id := by
  funext v
  cases v <;> rfl

end Stored

namespace PendingSet

variable {β γ : Type}

def recast (f : β → γ) (p : PendingSet β) : PendingSet γ :=
  ⟨p.key, p.hash, p.value.recast f, p.cost⟩

theorem recast_id : (recast id : PendingSet β → PendingSet β) = id := by
  funext p
  simp [recast, Stored.recast_id]

end PendingSet

namespace Cache

variable {β γ σ : Type}

/-- The cache with its values recast, after further counts. -/
def recast (f : β → γ) (m : CacheMetrics) (c : Cache β σ) : Cache γ σ where
  sizes := c.sizes
  shards := c.shards.map (Table.recast (Stored.recast f))
  sketch := c.sketch
  costs := c.costs
  usedCost := c.usedCost
  reads := c.reads
  pending := c.pending.map (PendingSet.recast f)
  metrics := m + c.metrics
  closed := c.closed
  random := c.random

theorem recast_id (m : CacheMetrics) (c : Cache β σ) :
    c.recast id m = { c with metrics := m + c.metrics } := by
  have htable : (Table.recast id : Table (Stored β) → Table (Stored β)) = id :=
    funext Table.recast_id
  simp [recast, Stored.recast_id, PendingSet.recast_id, htable]

section Residents

variable (f : β → γ) (m : CacheMetrics) (c : Cache β σ)

theorem recast_place (key : String) (hash : UInt64) (value : Stored β) :
    (c.recast f m).place key hash (value.recast f) = (c.place key hash value).recast f m := by
  have hshards : (c.shards.map (Table.recast (Stored.recast f))).set (shardOf hash)
      ((c.shards.map (Table.recast (Stored.recast f)))[shardOf hash].put key (value.recast f)) =
      (c.shards.set (shardOf hash) (c.shards[shardOf hash].put key value)).map
        (Table.recast (Stored.recast f)) := by
    simp [Vector.map_set, Table.recast_put]
  unfold place recast
  dsimp only
  rw [hshards]

theorem recast_lookup (key : String) :
    (c.recast f m).lookup key = (c.lookup key).map (Stored.recast f) := by
  unfold lookup recast
  simp only [Fin.getElem_fin, Vector.getElem_map]
  exact Table.get?_map _ _ key

theorem recast_update (key : String) (hash : UInt64) (value : Stored β) (cost : Int) :
    (c.recast f m).update key hash (value.recast f) cost =
      (c.update key hash value cost).recast f m := by
  unfold update
  dsimp only
  rw [recast_place]
  rfl

theorem recast_enter (p : PendingSet β) :
    (c.recast f m).enter (p.recast f) = (c.enter p).recast f m := by
  have hplace : (c.recast f m).place (p.recast f).key (p.recast f).hash (p.recast f).value =
      (c.place p.key p.hash p.value).recast f m := recast_place f m c p.key p.hash p.value
  unfold enter
  dsimp only
  rw [hplace]
  rfl

theorem recast_remove (key : String) :
    (c.recast f m).remove key = (c.remove key).recast f m := by
  have hshards : (c.shards.map (Table.recast (Stored.recast f))).set (shardOf (keyHash key))
      ((c.shards.map (Table.recast (Stored.recast f)))[shardOf (keyHash key)].remove key) =
      (c.shards.set (shardOf (keyHash key)) (c.shards[shardOf (keyHash key)].remove key)).map
        (Table.recast (Stored.recast f)) := by
    simp [Vector.map_set, Table.recast_remove]
  have hcosts : (c.recast f m).costs = c.costs := rfl
  unfold remove
  rw [hcosts]
  split
  · rfl
  · unfold recast
    dsimp only
    rw [hshards]

theorem recast_get (key : String) (contended : Bool) :
    (c.recast f m).get key contended =
      ((c.get key contended).1.map (Stored.recast f), (c.get key contended).2.recast f m) := by
  have haccess : ∀ hash, (c.recast f m).recordAccess contended hash =
      (c.recordAccess contended hash).recast f m := by
    intro hash
    have hreads : (c.recast f m).reads = c.reads := rfl
    have hlimit : (c.recast f m).readLimit = c.readLimit := rfl
    have hsizes : (c.recast f m).sizes = c.sizes := rfl
    unfold recordAccess
    rw [hreads, hlimit, hsizes]
    dsimp only
    split <;> rfl
  have hcount : ∀ (c : Cache β σ) found, (c.recast f m).countLookup found =
      (c.countLookup found).recast f m := by
    intro c found
    cases found <;> rfl
  have hclosed : (c.recast f m).closed = c.closed := rfl
  unfold get
  rw [hclosed]
  split
  · rfl
  · dsimp only
    rw [recast_lookup, haccess, hcount, Option.isSome_map]

theorem recast_fresh? (now limit : Float) (found : Option (Stored β)) :
    fresh? now limit (found.map (Stored.recast f)) = (fresh? now limit found).map f := by
  rcases found with _ | ⟨value⟩ | ⟨payload, time⟩
  · rfl
  · rfl
  · change (if now - time < limit then some (f payload) else none) =
      (if now - time < limit then some payload else none).map f
    split <;> rfl

theorem recast_live? (key : String) (now limit : Float) :
    (c.recast f m).live? key now limit =
      ((c.live? key now limit).1.map f, (c.live? key now limit).2.recast f m) := by
  rw [live?_eq, live?_eq, recast_get, recast_fresh?]

theorem recast_hold (p : PendingSet β) :
    (c.recast f m).hold (p.recast f) = (c.hold p).recast f m := by
  have hpending : c.pending.map (PendingSet.recast f) ++ [p.recast f] =
      (c.pending ++ [p]).map (PendingSet.recast f) := by simp
  unfold hold recast
  dsimp only
  rw [hpending]

theorem recast_delete (key : String) :
    (c.recast f m).delete key = (c.delete key).recast f m := by
  have hwithdraw : (c.recast f m).withdraw key = (c.withdraw key).recast f m := by
    have hpending : (c.pending.map (PendingSet.recast f)).filter (·.key != key) =
        (c.pending.filter (·.key != key)).map (PendingSet.recast f) := by
      simp [List.filter_map, Function.comp_def, PendingSet.recast]
    unfold withdraw recast
    dsimp only
    rw [hpending]
  rw [delete_eq, delete_eq, hwithdraw, recast_remove]

theorem recast_clear : (c.recast f m).clear = c.clear.recast f m := by
  have hshards : Vector.replicate shardCount ([] : Table (Stored γ)) =
      (Vector.replicate shardCount []).map (Table.recast (Stored.recast f)) := by
    simp [Table.recast]
  unfold clear recast
  dsimp only
  rw [hshards]
  rfl

theorem recast_close : (c.recast f m).close = c.close.recast f m := by
  unfold close
  rw [recast_clear]
  rfl

end Residents

section Admission

variable [RandomSource σ] (f : β → γ) (m : CacheMetrics) (c : Cache β σ)

theorem recast_victim? :
    (c.recast f m).victim? = (c.victim?.1, c.victim?.2.recast f m) := by
  have hcosts : (c.recast f m).costs = c.costs := rfl
  have hrandom : (c.recast f m).random = c.random := rfl
  unfold victim?
  rw [hcosts, hrandom]
  dsimp only
  split <;> rfl

theorem recast_makeRoom (incoming : Nat) (cost : Int) (fuel : Nat) (c : Cache β σ) :
    makeRoom incoming cost fuel (c.recast f m) =
      ((makeRoom incoming cost fuel c).1, (makeRoom incoming cost fuel c).2.recast f m) := by
  induction fuel generalizing c with
  | zero => rfl
  | succ fuel ih =>
    have hused : (c.recast f m).usedCost = c.usedCost := rfl
    have hsizes : (c.recast f m).sizes = c.sizes := rfl
    have hcosts : (c.recast f m).costs = c.costs := rfl
    unfold makeRoom
    rw [hused, hsizes, hcosts, recast_victim?]
    split
    · rfl
    · rcases c.victim? with ⟨_ | victim, drawn⟩
      · rfl
      · have hevict : (drawn.recast f m).evict victim = (drawn.evict victim).recast f m := by
          unfold evict
          rw [recast_remove]
          rfl
        have hfrequency : (drawn.recast f m).frequency victim = drawn.frequency victim := rfl
        dsimp only
        rw [hevict, hfrequency, ih]
        split <;> rfl

theorem recast_settle (p : PendingSet β) :
    (c.recast f m).settle (p.recast f) = (c.settle p).recast f m := by
  have hresident : (c.recast f m).resident (p.recast f).key = c.resident p.key := rfl
  have hestimate : (c.recast f m).sketch.estimate (p.recast f).hash =
      c.sketch.estimate p.hash := rfl
  have hcost : (p.recast f).cost = p.cost := rfl
  have hcosts : (c.recast f m).costs = c.costs := rfl
  unfold settle
  rw [hresident]
  split
  · exact recast_update f m c p.key p.hash p.value p.cost
  · unfold consider
    rw [hestimate, hcost, hcosts, recast_makeRoom]
    rcases makeRoom (c.sketch.estimate p.hash) p.cost c.costs.length c with ⟨_ | _, r⟩
    · rfl
    · exact recast_enter f m r p

theorem recast_settleAll (ps : List (PendingSet β)) (c : Cache β σ) :
    (ps.map (PendingSet.recast f)).foldl settle (c.recast f m) =
      (ps.foldl settle c).recast f m := by
  induction ps generalizing c with
  | nil => rfl
  | cons p ps ih => rw [List.map_cons, List.foldl_cons, recast_settle, ih, List.foldl_cons]

theorem recast_wait : (c.recast f m).wait = c.wait.recast f m := by
  have hpending : (c.recast f m).pending = c.pending.map (PendingSet.recast f) := rfl
  have hready : ({ c.recast f m with pending := [] } : Cache γ σ).drainReads =
      c.ready.recast f m := rfl
  unfold wait
  rw [hpending, hready]
  cases c.pending with
  | nil => rfl
  | cons p ps => exact recast_settleAll f m (p :: ps) c.ready

theorem set_some (c : Cache β σ) (key : String) (v : Stored β) (cost : Int) :
    c.set key (some v) cost =
      if c.closed then (false, c)
      else if c.sizes.maxCost < cost then (false, c.reject)
      else if c.resident key then (true, c.update key (keyHash key) v (max cost 1))
      else (true, if c.sizes.bufferItems ≤ (c.hold (offered key v cost)).pending.length then
        (c.hold (offered key v cost)).wait else c.hold (offered key v cost)) :=
  rfl

theorem recast_set (key : String) (value : Option (Stored β)) (cost : Int) :
    (c.recast f m).set key (value.map (Stored.recast f)) cost =
      ((c.set key value cost).1, (c.set key value cost).2.recast f m) := by
  cases value with
  | none => rfl
  | some v =>
    have hclosed : (c.recast f m).closed = c.closed := rfl
    have hsizes : (c.recast f m).sizes = c.sizes := rfl
    have hresident : (c.recast f m).resident key = c.resident key := rfl
    have hoffered : offered key (v.recast f) cost = (offered key v cost).recast f := rfl
    have hlength : ((c.hold (offered key v cost)).recast f m).pending.length =
        (c.hold (offered key v cost)).pending.length := List.length_map _
    rw [Option.map_some, set_some, set_some, hclosed, hsizes, hresident, hoffered, recast_hold,
      recast_update, recast_wait, hlength]
    split
    · rfl
    split
    · rfl
    split
    · rfl
    split <;> rfl

theorem recast_keep (key : String) (payload : β) (time : Float) (cost : Int) :
    (c.recast f m).keep key (f payload) time cost = (c.keep key payload time cost).recast f m := by
  have hset := recast_set f m c key (some (.entry payload time)) cost
  unfold keep
  rw [← recast_wait]
  exact congrArg (fun offered => wait offered.2) hset

theorem recast_compute (key : String) (now limit : Float) (answer : Option (β × Float))
    (cost : Int) :
    (c.recast f m).compute key now limit (answer.map fun a => (f a.1, a.2)) cost =
      ((c.compute key now limit answer cost).1.map f,
        (c.compute key now limit answer cost).2.recast f m) := by
  unfold compute
  rw [recast_live?]
  rcases c.live? key now limit with ⟨_ | payload, asked⟩
  · cases answer with
    | none => rfl
    | some answer =>
      dsimp only [Option.map]
      rw [recast_keep]
  · rfl

end Admission

section Runs

def Operation.recast (f : β → γ) : Operation β → Operation γ
  | .set key value cost => .set key (value.map (Stored.recast f)) cost
  | .get key contended => .get key contended
  | .wait => .wait
  | .delete key => .delete key
  | .clear => .clear
  | .close => .close
  | .compute key now limit answer cost =>
    .compute key now limit (answer.map fun a => (f a.1, a.2)) cost

theorem Operation.recast_id : (Operation.recast id : Operation β → Operation β) = id := by
  funext op
  cases op <;> simp [Operation.recast, Stored.recast_id]

inductive Outcome (β : Type)
  | accepted (yes : Bool)
  | found (value : Option (Stored β))
  | computed (answer : Option β)
  | done

def Outcome.recast (f : β → γ) : Outcome β → Outcome γ
  | .accepted yes => .accepted yes
  | .found value => .found (value.map (Stored.recast f))
  | .computed answer => .computed (answer.map f)
  | .done => .done

theorem Outcome.recast_id : (Outcome.recast id : Outcome β → Outcome β) = id := by
  funext o
  cases o <;> simp [Outcome.recast, Stored.recast_id]

variable [RandomSource σ]

def outcome (c : Cache β σ) : Operation β → Outcome β
  | .set key value cost => .accepted (c.set key value cost).1
  | .get key contended => .found (c.get key contended).1
  | .compute key now limit answer cost => .computed (c.compute key now limit answer cost).1
  | .wait | .delete _ | .clear | .close => .done

def outcomes (c : Cache β σ) : List (Operation β) → List (Outcome β)
  | [] => []
  | op :: ops => c.outcome op :: (c.step op).outcomes ops

theorem recast_step (f : β → γ) (m : CacheMetrics) (c : Cache β σ) (op : Operation β) :
    (c.recast f m).step (op.recast f) = (c.step op).recast f m ∧
      (c.recast f m).outcome (op.recast f) = (c.outcome op).recast f := by
  cases op with
  | set key value cost =>
    have h := recast_set f m c key value cost
    exact ⟨congrArg Prod.snd h, congrArg (fun r : Bool × Cache γ σ => Outcome.accepted r.1) h⟩
  | get key contended =>
    have h := recast_get f m c key contended
    exact ⟨congrArg Prod.snd h,
      congrArg (fun r : Option (Stored γ) × Cache γ σ => Outcome.found r.1) h⟩
  | wait => exact ⟨recast_wait f m c, rfl⟩
  | delete key => exact ⟨recast_delete f m c key, rfl⟩
  | clear => exact ⟨recast_clear f m c, rfl⟩
  | close => exact ⟨recast_close f m c, rfl⟩
  | compute key now limit answer cost =>
    have h := recast_compute f m c key now limit answer cost
    exact ⟨congrArg Prod.snd h, congrArg (fun r : Option γ × Cache γ σ => Outcome.computed r.1) h⟩

theorem recast_run (f : β → γ) (m : CacheMetrics) (c : Cache β σ) (ops : List (Operation β)) :
    (c.recast f m).run (ops.map (Operation.recast f)) = (c.run ops).recast f m ∧
      (c.recast f m).outcomes (ops.map (Operation.recast f)) =
        (c.outcomes ops).map (Outcome.recast f) := by
  induction ops generalizing c with
  | nil => exact ⟨rfl, rfl⟩
  | cons op ops ih =>
    obtain ⟨hstep, houtcome⟩ := recast_step f m c op
    obtain ⟨hrun, houtcomes⟩ := ih (c.step op)
    constructor
    · change ((c.recast f m).step (op.recast f)).run (ops.map (Operation.recast f)) = _
      rw [hstep, hrun]
      rfl
    · rw [List.map_cons, outcomes, hstep, houtcome, houtcomes, outcomes, List.map_cons]

end Runs

end Cache

end Census
