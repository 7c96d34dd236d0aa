import Census.Proofs.Cache.Budget

/-! How the parts of a cache fit together after any run: the costs, the shards, the budget used and
the buffer tell one story, and nothing is left of it in a cache that was closed. -/
namespace Census.Cache

variable {β σ : Type}

structure Coherent (config : CacheConfig) (c : Cache β σ) : Prop where
  /-- The keys with a cost are those of the shards. -/
  held : ∀ key, key ∈ c.costs.names ↔ ∃ i : Fin shardCount, key ∈ (c.shards.get i).names
  /-- The hash of a key names the only shard that has it. -/
  placed : ∀ (i : Fin shardCount) (key : String), key ∈ (c.shards.get i).names →
    (i : Nat) = (keyHash key).toNat % 64
  valued : ∀ key ∈ c.costs.names, ∃ value,
    (c.shards.get (shardOf (keyHash key))).get? key = some value
  once : c.costs.names.Nodup
  used : c.usedCost = (c.costs.map (·.2)).sum
  charged : ∀ entry ∈ c.costs, 1 ≤ entry.2 ∧ entry.2 ≤ config.maxCost
  waiting : ∀ p ∈ c.pending, (1 ≤ p.cost ∧ p.cost ≤ config.maxCost) ∧ p.key ∉ c.costs.names
  short : (c.pending.length : Int) < config.bufferItems

section Parts

variable {c : Cache β σ}

theorem Balanced.mem_names_shard (h : Balanced c) (i : Fin shardCount) (key : String) :
    key ∈ (c.shards.get i).names ↔ i = shardOf (keyHash key) ∧ key ∈ c.costs.names := by
  rw [← resident_iff_mem_names, ← h.placed, Table.isSome_get?, Table.has_iff_mem_names]
  rfl

theorem Balanced.shards_eq_nil (h : Balanced c) (hnone : c.costs = []) (i : Fin shardCount) :
    c.shards.get i = [] := by
  apply Table.eq_nil_of_not_mem_names
  intro key hkey
  rw [h.mem_names_shard, hnone] at hkey
  simp [Table.names] at hkey

theorem Sound.coherent (h : Sound c) {config : CacheConfig}
    (hcost : c.sizes.maxCost = config.maxCost)
    (hbuffer : (c.sizes.bufferItems : Int) = config.bufferItems) : Coherent config c where
  held := by
    intro key
    simp only [h.toBalanced.mem_names_shard, exists_eq_left]
  placed := by
    intro i key hkey
    rw [h.toBalanced.mem_names_shard] at hkey
    simp [hkey.1, shardOf, shardCount]
  valued := by
    intro key hkey
    apply Option.isSome_iff_exists.mp
    change (c.lookup key).isSome = true
    rw [h.toBalanced.isSome_lookup, resident_iff_mem_names]
    exact hkey
  once := h.nodup
  used := h.used
  charged := by
    intro entry hentry
    rw [← hcost]
    exact h.charged entry.1 entry.2 (Table.get?_of_mem h.nodup hentry)
  waiting := by
    intro p hp
    obtain ⟨hadmissible, hres⟩ := h.waiting p hp
    rw [← resident_iff_mem_names, hres, ← hcost]
    simp [hadmissible.one_le, hadmissible.le_maxCost]
  short := by
    have hshort := h.short
    omega

end Parts

variable [RandomSource σ] {c : Cache β σ}

theorem sizes_run (h : Sound c) (ops : List (Operation β)) : (c.run ops).sizes = c.sizes := by
  induction ops using List.reverseRecOn with
  | nil => rfl
  | append_singleton ops op ih =>
    rw [run_append_singleton, sizes_step (h.run ops), ih]

theorem closed_run {ops : List (Operation β)} (h : .close ∈ ops) : (c.run ops).closed = true := by
  obtain ⟨before, after, rfl⟩ := List.append_of_mem h
  have hsplit : c.run (before ++ .close :: after) = ((c.run before).step .close).run after := by
    simp [run]
  rw [hsplit]
  exact run_keeps (P := fun c => c.closed = true) (fun _ op hc => closed_step op hc) rfl after

/-- After any run the parts of the cache agree; once it was closed they are empty. -/
theorem coherent_run {config : CacheConfig} {random : σ} (h : make config random = .ok c)
    (ops : List (Operation β)) :
    Coherent config (c.run ops) ∧
      (.close ∈ ops → (c.run ops).costs = [] ∧ (c.run ops).pending = [] ∧
        ∀ i : Fin shardCount, (c.run ops).shards.get i = []) := by
  have hsound := sound_of_make h
  have hrun := hsound.run ops
  constructor
  · obtain ⟨sizes, sketch, random', hsizes, hempty⟩ := exists_sizes_of_make h
    have hsame : (c.run ops).sizes = sizes := by
      rw [sizes_run hsound, hempty]
      rfl
    obtain ⟨hcost, hbuffer⟩ := sizes_eq hsizes
    rw [← hsame] at hcost hbuffer
    exact hrun.coherent hcost hbuffer
  · intro hclose
    obtain ⟨hcosts, hpending⟩ := hrun.shut (closed_run hclose)
    exact ⟨hcosts, hpending, hrun.toBalanced.shards_eq_nil hcosts⟩

def displaced : List (Operation String) :=
  [.set "a" (some (.plain "x")) 5, .set "b" (some (.plain "y")) 5, .set "c" (some (.plain "z")) 8,
    .wait]

theorem coherent_displaced : ∃ c : Cache String Congruential,
    make ⟨1, 10, 2⟩ ⟨1, []⟩ = .ok c ∧ (c.run displaced).costs = [("c", 8)] ∧
      Coherent ⟨1, 10, 2⟩ (c.run displaced) ∧
      (c.run (displaced ++ [.close, .set "a" (some (.plain "x")) 5])).pending = [] := by
  have hrun := @coherent_run String Congruential _ _ ⟨1, 10, 2⟩ ⟨1, []⟩ rfl
  refine ⟨_, rfl, by decide +kernel, (hrun displaced).1, ((hrun _).2 ?_).2.1⟩
  simp

end Census.Cache
