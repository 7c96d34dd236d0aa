import Census.Cache.Admission
import Census.Proofs.Cache.Costs

/-! The balance of a cache: the costs and the shards tell of the same keys, and the budget used is
the sum of the costs. Entering and removing keys keep it. -/
namespace Census.Cache

variable {β σ : Type}

/-- The costs of the residents and the shards with their values agree. -/
structure Balanced (c : Cache β σ) : Prop where
  nodup : c.costs.names.Nodup
  /-- A value lies in the shard of its key and in no other, and only residents have one. -/
  placed : ∀ (i : Fin shardCount) (key : String),
    (c.shards[i].get? key).isSome = true ↔ i = shardOf (keyHash key) ∧ c.resident key = true
  used : c.usedCost = c.costs.total
  charged : ∀ key cost, c.costs.get? key = some cost → 1 ≤ cost ∧ cost ≤ c.sizes.maxCost

structure Admissible (sizes : CacheSizes) (p : PendingSet β) : Prop where
  hash_eq : p.hash = keyHash p.key
  one_le : 1 ≤ p.cost
  le_maxCost : p.cost ≤ sizes.maxCost

section Balance

variable {c : Cache β σ}

theorem Balanced.congr (h : Balanced c) {c' : Cache β σ} (hsizes : c'.sizes = c.sizes)
    (hshards : c'.shards = c.shards) (hcosts : c'.costs = c.costs)
    (hused : c'.usedCost = c.usedCost) : Balanced c' where
  nodup := by
    rw [hcosts]
    exact h.nodup
  placed := by
    intro i key
    unfold resident
    rw [hshards, hcosts]
    exact h.placed i key
  used := by
    rw [hused, hcosts]
    exact h.used
  charged := by
    rw [hsizes, hcosts]
    exact h.charged

@[simp] theorem shards_place (c : Cache β σ) (key : String) (hash : UInt64) (value : Stored β)
    (i : Fin shardCount) :
    (c.place key hash value).shards[i] =
      if i = shardOf hash then c.shards[i].put key value else c.shards[i] := by
  unfold place
  simp only [Fin.getElem_fin, Vector.getElem_set]
  by_cases h : i = shardOf hash
  · simp [h]
  · have hval : (shardOf hash).val ≠ i.val := fun hv => h (Fin.ext hv.symm)
    simp [h, hval]

theorem Balanced.put (h : Balanced c) {key : String} {value : Stored β} {cost : Int}
    (hcost : 1 ≤ cost ∧ cost ≤ c.sizes.maxCost) {c' : Cache β σ} (hsizes : c'.sizes = c.sizes)
    (hshards : c'.shards = (c.place key (keyHash key) value).shards)
    (hcosts : c'.costs = c.costs.put key cost)
    (hused : c'.usedCost = c.usedCost + (cost - (c.costs.get? key).getD 0)) : Balanced c' where
  nodup := by
    rw [hcosts]
    exact Table.nodup_names_put h.nodup key cost
  placed := by
    intro i other
    unfold resident
    rw [hshards, hcosts, shards_place, Table.has_put]
    have hplaced := h.placed i other
    unfold resident at hplaced
    by_cases hkey : key = other
    · subst hkey
      by_cases hi : i = shardOf (keyHash key)
      · simp [hi, Table.get?_put]
      · simpa [hi] using hplaced
    · by_cases hi : i = shardOf (keyHash key)
      · simpa [hi, Table.get?_put, hkey] using hplaced
      · simpa [hi, hkey] using hplaced
  used := by
    rw [hused, hcosts, Table.total_put, h.used]
  charged := by
    intro other cost' hcost'
    rw [hcosts, Table.get?_put] at hcost'
    rw [hsizes]
    split at hcost'
    · cases hcost'
      exact hcost
    · exact h.charged other cost' hcost'

theorem get?_costs_isSome (c : Cache β σ) (key : String) :
    (c.costs.get? key).isSome = c.resident key :=
  Table.isSome_get? c.costs key

theorem resident_iff_mem_names (c : Cache β σ) (key : String) :
    c.resident key = true ↔ key ∈ c.costs.names :=
  Table.has_iff_mem_names c.costs key

theorem get?_costs_of_not_resident {key : String} (h : c.resident key = false) :
    c.costs.get? key = none := by
  rw [← Option.not_isSome_iff_eq_none, get?_costs_isSome, h]
  decide

theorem remove_of_not_resident {key : String} (h : c.resident key = false) :
    c.remove key = c := by
  unfold remove
  rw [get?_costs_of_not_resident h]

theorem exists_cost {key : String} (h : c.resident key = true) :
    ∃ cost, c.costs.get? key = some cost := by
  rw [← get?_costs_isSome] at h
  exact Option.isSome_iff_exists.mp h

@[simp] theorem costs_remove (c : Cache β σ) (key : String) :
    (c.remove key).costs = c.costs.remove key := by
  cases hres : c.resident key with
  | false =>
    rw [remove_of_not_resident hres]
    exact (Table.remove_of_not_has hres).symm
  | true =>
    obtain ⟨cost, hcost⟩ := exists_cost hres
    unfold remove
    rw [hcost]

theorem usedCost_remove {key : String} {cost : Int} (h : c.costs.get? key = some cost) :
    (c.remove key).usedCost = c.usedCost - cost := by
  unfold remove
  rw [h]

theorem shards_remove {key : String} (h : c.resident key = true) (i : Fin shardCount) :
    (c.remove key).shards[i] =
      if i = shardOf (keyHash key) then c.shards[i].remove key else c.shards[i] := by
  obtain ⟨cost, hcost⟩ := exists_cost h
  unfold remove
  rw [hcost]
  simp only [Fin.getElem_fin, Vector.getElem_set]
  by_cases hi : i = shardOf (keyHash key)
  · simp [hi]
  · have hval : (shardOf (keyHash key)).val ≠ i.val := fun hv => hi (Fin.ext hv.symm)
    simp [hi, hval]

@[simp] theorem sizes_remove (c : Cache β σ) (key : String) : (c.remove key).sizes = c.sizes := by
  unfold remove
  split <;> rfl

@[simp] theorem pending_remove (c : Cache β σ) (key : String) :
    (c.remove key).pending = c.pending := by
  unfold remove
  split <;> rfl

@[simp] theorem closed_remove (c : Cache β σ) (key : String) :
    (c.remove key).closed = c.closed := by
  unfold remove
  split <;> rfl

theorem sketch_remove (c : Cache β σ) (key : String) : (c.remove key).sketch = c.sketch := by
  unfold remove
  split <;> rfl

theorem metrics_remove (c : Cache β σ) (key : String) : (c.remove key).metrics = c.metrics := by
  unfold remove
  split <;> rfl

@[simp] theorem resident_remove (c : Cache β σ) (key other : String) :
    (c.remove key).resident other = (!decide (key = other) && c.resident other) := by
  unfold resident
  rw [costs_remove]
  exact Table.has_remove c.costs key other

theorem Balanced.remove (h : Balanced c) (key : String) : Balanced (c.remove key) := by
  cases hres : c.resident key with
  | false =>
    rw [remove_of_not_resident hres]
    exact h
  | true =>
    obtain ⟨cost, hcost⟩ := exists_cost hres
    have hplaced : ∀ (i : Fin shardCount) (other : String),
        ((c.remove key).shards[i].get? other).isSome = true ↔
          i = shardOf (keyHash other) ∧ (c.remove key).resident other = true := by
      intro i other
      rw [resident_remove, shards_remove hres]
      have hbefore := h.placed i other
      by_cases hi : i = shardOf (keyHash key)
      · by_cases hkey : key = other
        · simp [hi, hkey, Table.get?_remove]
        · simpa [hi, hkey, Table.get?_remove] using hbefore
      · by_cases hkey : key = other
        · subst hkey
          simpa [hi] using hbefore
        · simpa [hi, hkey] using hbefore
    refine ⟨?_, hplaced, ?_, ?_⟩
    · rw [costs_remove]
      exact Table.nodup_names_remove h.nodup key
    · rw [usedCost_remove hcost, costs_remove, (Table.remove_of_mem_names h.nodup hcost).1, h.used]
    · intro other cost' hcost'
      rw [sizes_remove]
      rw [costs_remove, Table.get?_remove] at hcost'
      split at hcost'
      · simp at hcost'
      · exact h.charged other cost' hcost'

end Balance

section Lookup

variable {c : Cache β σ}

theorem Balanced.isSome_lookup (h : Balanced c) (key : String) :
    (c.lookup key).isSome = c.resident key := by
  rw [Bool.eq_iff_iff]
  unfold lookup
  rw [h.placed (shardOf (keyHash key)) key]
  simp

theorem Balanced.lookup_eq_none (h : Balanced c) {key : String}
    (hkey : c.resident key = false) : c.lookup key = none := by
  rw [← Option.not_isSome_iff_eq_none, h.isSome_lookup, hkey]
  decide

theorem lookup_place (c : Cache β σ) (key other : String) (value : Stored β) :
    (c.place key (keyHash key) value).lookup other =
      if key = other then some value else c.lookup other := by
  unfold lookup
  rw [shards_place]
  by_cases hkey : key = other
  · subst hkey
    simp [Table.get?_put]
  · by_cases hshard : shardOf (keyHash other) = shardOf (keyHash key)
    · simp [hshard, Table.get?_put, hkey]
    · simp [hshard, hkey]

theorem lookup_enter {p : PendingSet β} (hhash : p.hash = keyHash p.key) (c : Cache β σ)
    (key : String) :
    (c.enter p).lookup key = if p.key = key then some p.value else c.lookup key := by
  rw [← lookup_place, ← hhash]
  rfl

theorem Balanced.lookup_remove (h : Balanced c) (key other : String) :
    (c.remove key).lookup other = if key = other then none else c.lookup other := by
  by_cases hkey : key = other
  · have hgone : (c.remove key).resident other = false := by simp [hkey]
    rw [(h.remove key).lookup_eq_none hgone, if_pos hkey]
  · rw [if_neg hkey]
    cases hres : c.resident key with
    | false => rw [remove_of_not_resident hres]
    | true =>
      unfold lookup
      rw [shards_remove hres]
      split
      · rw [Table.get?_remove, if_neg hkey]
      · rfl

end Lookup

section Used

variable {c : Cache β σ}

theorem Balanced.usedCost_eq_zero (h : Balanced c) (hnil : c.costs = []) : c.usedCost = 0 := by
  rw [h.used, hnil]
  rfl

theorem Balanced.usedCost_nonneg (h : Balanced c) : 0 ≤ c.usedCost := by
  rw [h.used]
  refine Table.total_nonneg h.nodup fun key cost hcost => ?_
  have hpos := (h.charged key cost hcost).1
  omega

theorem Balanced.usedCost_remove_le (h : Balanced c) (key : String) :
    (c.remove key).usedCost ≤ c.usedCost := by
  cases hres : c.resident key with
  | false => exact Int.le_of_eq (congrArg usedCost (remove_of_not_resident hres))
  | true =>
    obtain ⟨cost, hcost⟩ := exists_cost hres
    have hpos := (h.charged key cost hcost).1
    rw [usedCost_remove hcost]
    omega

theorem length_costs_remove (h : Balanced c) {key : String} (hres : c.resident key = true) :
    (c.remove key).costs.length + 1 = c.costs.length := by
  obtain ⟨cost, hcost⟩ := exists_cost hres
  rw [costs_remove]
  exact (Table.remove_of_mem_names h.nodup hcost).2

end Used

end Census.Cache
