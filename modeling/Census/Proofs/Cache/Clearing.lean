import Census.Proofs.Cache.Balance

/-! How room is made for a new key. While its cost does not fit, the least requested key of a sample
of the residents goes, unless it is requested more often than the new one. What is said of this
holds of every drawing of samples and of every choice among the least requested keys; the cache's
own decision on a waiting value is one of these, and keeps the balance. -/
namespace Census.Cache

variable {β σ : Type}

section Sample

/-- Different names out of some, all of them if they are fewer than a sample may have. -/
structure IsSample (names drawn : List String) : Prop where
  nodup : drawn.Nodup
  subset : drawn ⊆ names
  length : drawn.length = min sampleSize names.length

def Drawing (σ : Type) : Type :=
  List String → σ → List String × σ

def Drawing.Fair (draw : Drawing σ) : Prop :=
  ∀ names random, names.Nodup → IsSample names (draw names random).1

def Drawing.own [RandomSource σ] : Drawing σ :=
  fun names random => RandomSource.sample (min sampleSize names.length) names random

structure Least (c : Cache β σ) (keys : List String) (victim : String) : Prop where
  mem : victim ∈ keys
  least : ∀ key ∈ keys, c.frequency victim ≤ c.frequency key

theorem leastBy_mem (score : String → Nat) (best : String) (xs : List String) :
    leastBy score best xs ∈ best :: xs := by
  induction xs generalizing best with
  | nil => simp [leastBy]
  | cons x xs ih =>
    unfold leastBy
    split
    · exact List.mem_cons_of_mem best (ih x)
    · rcases List.mem_cons.mp (ih best) with h | h
      · rw [h]
        exact List.mem_cons_self
      · exact List.mem_cons_of_mem best (List.mem_cons_of_mem x h)

theorem leastBy_le (score : String → Nat) (best : String) (xs : List String) :
    ∀ x ∈ best :: xs, score (leastBy score best xs) ≤ score x := by
  induction xs generalizing best with
  | nil => simp [leastBy]
  | cons x xs ih =>
    unfold leastBy
    split
    · rename_i hless
      have hx := ih x x List.mem_cons_self
      exact List.forall_mem_cons.mpr ⟨by omega, ih x⟩
    · rename_i hmore
      have hbest := ih best best List.mem_cons_self
      refine List.forall_mem_cons.mpr ⟨hbest, List.forall_mem_cons.mpr ⟨by omega, ?_⟩⟩
      exact fun y hy => ih best y (List.mem_cons_of_mem best hy)

theorem exists_least (c : Cache β σ) {keys : List String} (h : keys ≠ []) :
    ∃ victim, Least c keys victim := by
  obtain ⟨x, xs, rfl⟩ := List.exists_cons_of_ne_nil h
  exact ⟨_, leastBy_mem c.frequency x xs, leastBy_le c.frequency x xs⟩

theorem IsSample.ne_nil {names keys : List String} (h : IsSample names keys) (hsome : names ≠ []) :
    keys ≠ [] := by
  have hpos := List.length_pos_of_ne_nil hsome
  have hlength := h.length
  apply List.ne_nil_of_length_pos
  simp only [sampleSize] at hlength
  omega

theorem fair_own [RandomSource σ] : (Drawing.own : Drawing σ).Fair := by
  intro names random hnodup
  have hsubperm := RandomSource.subperm_sample (min sampleSize names.length) names random
  refine ⟨?_, hsubperm.subset, ?_⟩
  · obtain ⟨keys, hperm, hsublist⟩ := hsubperm
    exact hperm.nodup_iff.mp (hnodup.sublist hsublist)
  · have hlength := RandomSource.length_sample (min sampleSize names.length) names random
    rwa [Nat.min_assoc, Nat.min_self] at hlength

end Sample

def drawn (draw : Drawing σ) (c : Cache β σ) : List String :=
  (draw c.costs.names c.random).1

def moved (draw : Drawing σ) (c : Cache β σ) : Cache β σ :=
  { c with random := (draw c.costs.names c.random).2 }

/-- Rounds of making room for a cost: the keys that go, and whether the new key may enter. -/
inductive Clears (draw : Drawing σ) (incoming : Nat) (cost : Int) :
    Cache β σ → List String → Bool → Cache β σ → Prop
  | enough {c : Cache β σ} (hdone : c.usedCost + cost ≤ c.sizes.maxCost ∨ c.costs = []) :
    Clears draw incoming cost c [] true c
  | refused {c : Cache β σ} {victim : String} (hover : c.sizes.maxCost < c.usedCost + cost)
      (hleast : Least c (c.drawn draw) victim) (hless : incoming < c.frequency victim) :
    Clears draw incoming cost c [] false (c.moved draw).reject
  | evicted {c r : Cache β σ} {victim : String} {gone : List String} {accepted : Bool}
      (hover : c.sizes.maxCost < c.usedCost + cost) (hleast : Least c (c.drawn draw) victim)
      (hle : c.frequency victim ≤ incoming)
      (hrest : Clears draw incoming cost ((c.moved draw).evict victim) gone accepted r) :
    Clears draw incoming cost c (victim :: gone) accepted r

inductive Decides (draw : Drawing σ) (c : Cache β σ) (p : PendingSet β) :
    List String → Cache β σ → Prop
  | entered {gone : List String} {r : Cache β σ}
      (h : Clears draw (c.sketch.estimate p.hash) p.cost c gone true r) :
    Decides draw c p gone (r.enter p)
  | refused {gone : List String} {r : Cache β σ}
      (h : Clears draw (c.sketch.estimate p.hash) p.cost c gone false r) :
    Decides draw c p gone r

structure Cleared (c : Cache β σ) (gone : List String) (r : Cache β σ) : Prop where
  balanced : Balanced r
  names : r.costs.names = c.costs.names.filter (· ∉ gone)
  value : ∀ key, r.lookup key = if key ∈ gone then none else c.lookup key
  cost : ∀ key, r.costs.get? key = if key ∈ gone then none else c.costs.get? key
  used : r.usedCost ≤ c.usedCost
  sketch : r.sketch = c.sketch
  sizes : r.sizes = c.sizes

section Cleared

variable {c c' r : Cache β σ} {draw : Drawing σ}

theorem Balanced.moved (h : Balanced c) (draw : Drawing σ) : Balanced (c.moved draw) :=
  h.congr rfl rfl rfl rfl

theorem Drawing.Fair.drawn (hfair : draw.Fair) (h : Balanced c) :
    IsSample c.costs.names (c.drawn draw) :=
  hfair c.costs.names c.random h.nodup

theorem Drawing.Fair.resident (hfair : draw.Fair) (h : Balanced c) {victim : String}
    (hleast : Least c (c.drawn draw) victim) : c.resident victim = true :=
  (resident_iff_mem_names c victim).mpr ((hfair.drawn h).subset hleast.mem)

theorem length_evict (hfair : draw.Fair) (h : Balanced c) {victim : String}
    (hleast : Least c (c.drawn draw) victim) :
    ((c.moved draw).evict victim).costs.length + 1 = c.costs.length :=
  length_costs_remove (h.moved draw) (hfair.resident h hleast)

theorem filter_not_mem_append (names gone gone' : List String) :
    (names.filter (· ∉ gone)).filter (· ∉ gone') = names.filter (· ∉ gone ++ gone') := by
  rw [List.filter_filter]
  congr 1
  funext key
  simp [Bool.and_comm]

theorem cleared_nil (h : Balanced c) (hshards : r.shards = c.shards) (hcosts : r.costs = c.costs)
    (hused : r.usedCost = c.usedCost) (hsketch : r.sketch = c.sketch) (hsizes : r.sizes = c.sizes) :
    Cleared c [] r where
  balanced := h.congr hsizes hshards hcosts hused
  names := by simp [hcosts]
  value := by
    intro key
    simp [lookup, hshards]
  cost := by simp [hcosts]
  used := Int.le_of_eq hused
  sketch := hsketch
  sizes := hsizes

theorem cleared_evict (h : Balanced c) (draw : Drawing σ) (key : String) :
    Cleared c [key] ((c.moved draw).evict key) where
  balanced := ((h.moved draw).remove key).congr rfl rfl rfl rfl
  names := by
    have hcosts : ((c.moved draw).evict key).costs = c.costs.remove key := costs_remove _ key
    rw [hcosts, Table.names_remove]
    simp [bne, beq_eq_decide]
  value := by
    intro other
    have hlookup : ((c.moved draw).evict key).lookup other =
        if key = other then none else c.lookup other := (h.moved draw).lookup_remove key other
    simp only [hlookup, List.mem_singleton, eq_comm]
  cost := by
    intro other
    have hcosts : ((c.moved draw).evict key).costs = c.costs.remove key := costs_remove _ key
    rw [hcosts, Table.get?_remove]
    simp only [List.mem_singleton, eq_comm]
  used := (h.moved draw).usedCost_remove_le key
  sketch := sketch_remove _ key
  sizes := sizes_remove _ key

theorem Cleared.trans {gone gone' : List String} (h : Cleared c gone c')
    (h' : Cleared c' gone' r) : Cleared c (gone ++ gone') r where
  balanced := h'.balanced
  names := by
    rw [h'.names, h.names, filter_not_mem_append]
  value := by
    intro key
    rw [h'.value, h.value]
    by_cases hkey : key ∈ gone <;> simp [hkey]
  cost := by
    intro key
    rw [h'.cost, h.cost]
    by_cases hkey : key ∈ gone <;> simp [hkey]
  used := Int.le_trans h'.used h.used
  sketch := h'.sketch.trans h.sketch
  sizes := h'.sizes.trans h.sizes

theorem Cleared.resident {gone : List String} (h : Cleared c gone r) (key : String) :
    r.resident key = (!decide (key ∈ gone) && c.resident key) := by
  rw [← get?_costs_isSome, ← get?_costs_isSome, h.cost]
  by_cases hkey : key ∈ gone <;> simp [hkey]

theorem Cleared.not_resident {gone : List String} (h : Cleared c gone r) {key : String}
    (hkey : c.resident key = false) : r.resident key = false := by
  simp [h.resident, hkey]

theorem Cleared.lookup_cases {gone : List String} (h : Cleared c gone r) (key : String) :
    r.lookup key = none ∨ r.lookup key = c.lookup key := by
  rw [h.value]
  split
  · exact .inl rfl
  · exact .inr rfl

theorem Cleared.frequency_eq {gone : List String} (h : Cleared c gone r) :
    r.frequency = c.frequency := by
  unfold frequency
  rw [h.sketch]

theorem Cleared.least {gone keys : List String} {victim : String} (h : Cleared c gone r)
    (hleast : Least r keys victim) : Least c keys victim := by
  obtain ⟨hmem, hle⟩ := hleast
  rw [h.frequency_eq] at hle
  exact ⟨hmem, hle⟩

end Cleared

section Clears

variable {draw : Drawing σ} {incoming : Nat} {cost : Int} {c r : Cache β σ} {gone : List String}
  {accepted : Bool}

theorem Clears.cleared (h : Clears draw incoming cost c gone accepted r) (hb : Balanced c) :
    Cleared c gone r := by
  induction h with
  | enough _ => exact cleared_nil hb rfl rfl rfl rfl rfl
  | refused _ _ _ => exact cleared_nil hb rfl rfl rfl rfl rfl
  | @evicted c r victim gone accepted _ _ _ _ ih =>
    have hevict := cleared_evict hb draw victim
    exact hevict.trans (ih hevict.balanced)

/-- What is not refused fits in the end: a cache without residents has its whole budget left. -/
theorem Clears.fits (h : Clears draw incoming cost c gone true r) (hb : Balanced c)
    (hcost : cost ≤ c.sizes.maxCost) : r.usedCost + cost ≤ c.sizes.maxCost := by
  generalize haccepted : true = accepted at h
  induction h with
  | @enough c hdone =>
    rcases hdone with hfits | hnil
    · exact hfits
    · have hused := hb.usedCost_eq_zero hnil
      omega
  | refused _ _ _ => exact Bool.noConfusion haccepted
  | @evicted c r victim gone accepted _ _ _ _ ih =>
    have hevict := cleared_evict hb draw victim
    rw [hevict.sizes] at ih
    exact ih hevict.balanced hcost haccepted

/-- However samples are drawn, making room comes to an end. -/
theorem exists_clears (hfair : draw.Fair) (hb : Balanced c) (incoming : Nat) (cost : Int) :
    ∃ gone accepted r, Clears draw incoming cost c gone accepted r := by
  -- every round takes one resident
  induction hcount : c.costs.length generalizing c with
  | zero => exact ⟨[], true, c, .enough (.inr (List.length_eq_zero_iff.mp hcount))⟩
  | succ n ih =>
    by_cases hfits : c.usedCost + cost ≤ c.sizes.maxCost
    · exact ⟨[], true, c, .enough (.inl hfits)⟩
    · have hover := Int.not_le.mp hfits
      have hsome : c.costs.names ≠ [] := by
        apply List.ne_nil_of_length_pos
        rw [Table.names, List.length_map, hcount]
        exact Nat.succ_pos n
      obtain ⟨victim, hleast⟩ := exists_least c ((hfair.drawn hb).ne_nil hsome)
      by_cases hless : incoming < c.frequency victim
      · exact ⟨[], false, _, .refused hover hleast hless⟩
      · have hlength := length_evict hfair hb hleast
        obtain ⟨gone, accepted, r, hrest⟩ :=
          ih (cleared_evict hb draw victim).balanced (by omega)
        exact ⟨victim :: gone, accepted, r, .evicted hover hleast (Nat.not_lt.mp hless) hrest⟩

end Clears

section Room

variable [RandomSource σ] {c : Cache β σ}

theorem exists_victim (h : c.costs ≠ []) :
    ∃ victim, Least c (c.drawn .own) victim ∧ c.victim? = (some victim, c.moved .own) := by
  have hnames : c.costs.names.length = c.costs.length := List.length_map _
  have hlength := RandomSource.length_sample (min sampleSize c.costs.length) c.costs.names c.random
  unfold drawn moved Drawing.own victim?
  rw [hnames] at hlength ⊢
  generalize RandomSource.sample (min sampleSize c.costs.length) c.costs.names c.random = outcome
    at hlength ⊢
  obtain ⟨sample, random⟩ := outcome
  cases sample with
  | nil =>
    have hpos := List.length_pos_of_ne_nil h
    simp only [List.length_nil, sampleSize] at hlength
    omega
  | cons x xs => exact ⟨_, ⟨leastBy_mem _ x xs, leastBy_le _ x xs⟩, rfl⟩

/-- One round of making room: nothing is left to do, or the least requested key of a sample either
stays and the new key is refused, or goes. -/
theorem makeRoom_succ (incoming : Nat) (cost : Int) (fuel : Nat) (c : Cache β σ) :
    ((c.usedCost + cost ≤ c.sizes.maxCost ∨ c.costs = []) ∧
      makeRoom incoming cost (fuel + 1) c = (true, c)) ∨
    (c.sizes.maxCost < c.usedCost + cost ∧ ∃ victim, Least c (c.drawn .own) victim ∧
      ((incoming < c.frequency victim ∧
          makeRoom incoming cost (fuel + 1) c = (false, (c.moved .own).reject)) ∨
        (c.frequency victim ≤ incoming ∧
          makeRoom incoming cost (fuel + 1) c =
            makeRoom incoming cost fuel ((c.moved .own).evict victim)))) := by
  by_cases hdone : c.usedCost + cost ≤ c.sizes.maxCost ∨ c.costs.isEmpty = true
  · refine .inl ⟨?_, by rw [makeRoom, if_pos hdone]⟩
    simpa using hdone
  · obtain ⟨hover, hcosts⟩ := not_or.mp hdone
    obtain ⟨victim, hleast, hvictim⟩ := exists_victim (by simpa using hcosts)
    refine .inr ⟨Int.not_le.mp hover, victim, hleast, ?_⟩
    have hfrequency : (c.moved .own).frequency victim = c.frequency victim := rfl
    rw [makeRoom, if_neg hdone, hvictim]
    dsimp only
    rw [hfrequency]
    split
    · rename_i hbelow
      exact .inl ⟨hbelow, rfl⟩
    · rename_i hnot
      exact .inr ⟨Nat.not_lt.mp hnot, rfl⟩

/-- With a round for every resident, making room is one of the possible clearings. -/
theorem clears_makeRoom (h : Balanced c) (incoming : Nat) (cost : Int) {fuel : Nat}
    (hfuel : c.costs.length ≤ fuel) :
    ∃ gone, Clears .own incoming cost c gone (makeRoom incoming cost fuel c).1
      (makeRoom incoming cost fuel c).2 := by
  -- every eviction takes one resident and one unit of fuel
  induction fuel generalizing c with
  | zero => exact ⟨[], .enough (.inr (List.length_eq_zero_iff.mp (Nat.le_zero.mp hfuel)))⟩
  | succ fuel ih =>
    rcases makeRoom_succ incoming cost fuel c with
      ⟨hdone, hrun⟩ | ⟨hover, victim, hleast, ⟨hless, hrun⟩ | ⟨hle, hrun⟩⟩
    · rw [hrun]
      exact ⟨[], .enough hdone⟩
    · rw [hrun]
      exact ⟨[], .refused hover hleast hless⟩
    · have hlength := length_evict fair_own h hleast
      rw [hrun]
      obtain ⟨gone, hrest⟩ := ih (cleared_evict h .own victim).balanced (by omega)
      exact ⟨victim :: gone, .evicted hover hleast hle hrest⟩

theorem decides_settle (h : Balanced c) {p : PendingSet β} (hnew : c.resident p.key = false) :
    ∃ gone, Decides .own c p gone (c.settle p) := by
  obtain ⟨gone, hclears⟩ :=
    clears_makeRoom h (c.sketch.estimate p.hash) p.cost (Nat.le_refl c.costs.length)
  refine ⟨gone, ?_⟩
  unfold settle consider
  rw [if_neg (by simp [hnew])]
  generalize makeRoom (c.sketch.estimate p.hash) p.cost c.costs.length c = outcome at hclears ⊢
  obtain ⟨accepted, r⟩ := outcome
  cases accepted with
  | true => exact .entered hclears
  | false => exact .refused hclears

theorem makeRoom_keeps {P : Cache β σ → Prop}
    (hdrawn : ∀ (c : Cache β σ) random, P c → P { c with random := random })
    (hevicted : ∀ c key, P c → P (c.evict key)) (hrefused : ∀ c, P c → P c.reject)
    (incoming : Nat) (cost : Int) (fuel : Nat) (hc : P c) :
    P (makeRoom incoming cost fuel c).2 := by
  induction fuel generalizing c with
  | zero => exact hc
  | succ fuel ih =>
    rcases makeRoom_succ incoming cost fuel c with
      ⟨-, h⟩ | ⟨-, victim, -, ⟨-, h⟩ | ⟨-, h⟩⟩
    · rw [h]
      exact hc
    · rw [h]
      exact hrefused _ (hdrawn c _ hc)
    · rw [h]
      exact ih (hevicted _ victim (hdrawn c _ hc))

end Room

section Settle

variable [RandomSource σ] {c : Cache β σ}

theorem makeRoom_frame (incoming : Nat) (cost : Int) (fuel : Nat) (c : Cache β σ) :
    (makeRoom incoming cost fuel c).2.sizes = c.sizes ∧
      (makeRoom incoming cost fuel c).2.pending = c.pending ∧
      (makeRoom incoming cost fuel c).2.closed = c.closed := by
  refine makeRoom_keeps
    (P := fun c' => c'.sizes = c.sizes ∧ c'.pending = c.pending ∧ c'.closed = c.closed)
    ?_ ?_ ?_ incoming cost fuel ⟨rfl, rfl, rfl⟩
  · intro c' random h
    exact h
  · intro c' key h
    unfold evict
    dsimp only
    rw [sizes_remove, pending_remove, closed_remove]
    exact h
  · intro c' h
    exact h

theorem settle_frame (c : Cache β σ) (p : PendingSet β) :
    (c.settle p).sizes = c.sizes ∧ (c.settle p).pending = c.pending ∧
      (c.settle p).closed = c.closed := by
  have hroom := makeRoom_frame (c.sketch.estimate p.hash) p.cost c.costs.length c
  unfold settle
  split
  · exact ⟨rfl, rfl, rfl⟩
  · unfold consider
    split <;> rename_i heq <;> rw [heq] at hroom <;> exact hroom

/-- All that can become of a waiting value: it replaces the one of its key, it enters and fits, or
it is refused. Residents may go for it in the last two cases. -/
theorem settle_cases (h : Balanced c) {p : PendingSet β} (hp : p.cost ≤ c.sizes.maxCost) :
    (c.resident p.key = true ∧ c.settle p = c.update p.key p.hash p.value p.cost) ∨
    (c.resident p.key = false ∧ ∃ gone r, Cleared c gone r ∧
      ((r.usedCost + p.cost ≤ c.sizes.maxCost ∧ c.settle p = r.enter p) ∨ c.settle p = r)) := by
  cases hres : c.resident p.key with
  | true => exact .inl ⟨rfl, by unfold settle; rw [if_pos hres]⟩
  | false =>
    refine .inr ⟨rfl, ?_⟩
    obtain ⟨gone, hdecides⟩ := decides_settle h hres
    generalize c.settle p = last at hdecides ⊢
    cases hdecides with
    | @entered r hclears => exact ⟨gone, r, hclears.cleared h, .inl ⟨hclears.fits h hp, rfl⟩⟩
    | refused hclears => exact ⟨gone, last, hclears.cleared h, .inr rfl⟩

theorem Balanced.settle (h : Balanced c) {p : PendingSet β} (hp : Admissible c.sizes p) :
    Balanced (c.settle p) := by
  rcases settle_cases h hp.le_maxCost with ⟨-, hsettle⟩ |
    ⟨hres, gone, r, hcleared, ⟨-, hsettle⟩ | hsettle⟩
  · rw [hsettle, hp.hash_eq]
    exact h.put ⟨hp.one_le, hp.le_maxCost⟩ rfl rfl rfl rfl
  · have habsent := get?_costs_of_not_resident (hcleared.not_resident hres)
    rw [hsettle]
    unfold enter
    rw [hp.hash_eq]
    exact hcleared.balanced.put ⟨hp.one_le, hcleared.sizes ▸ hp.le_maxCost⟩ rfl rfl rfl
      (by simp [habsent])
  · rw [hsettle]
    exact hcleared.balanced

theorem lookup_settle (h : Balanced c) {p : PendingSet β} (hp : Admissible c.sizes p)
    (key : String) : (c.settle p).lookup key = none ∨
      (c.settle p).lookup key = if p.key = key then some p.value else c.lookup key := by
  rcases settle_cases h hp.le_maxCost with ⟨-, hsettle⟩ |
    ⟨hres, gone, r, hcleared, ⟨-, hsettle⟩ | hsettle⟩
  · rw [hsettle, hp.hash_eq]
    exact .inr (lookup_place c p.key key p.value)
  · rw [hsettle, lookup_enter hp.hash_eq]
    split
    · exact .inr rfl
    · exact hcleared.lookup_cases key
  · rw [hsettle]
    split
    · rename_i hkey
      exact .inl (hcleared.balanced.lookup_eq_none (hkey ▸ hcleared.not_resident hres))
    · exact hcleared.lookup_cases key

end Settle

end Census.Cache
