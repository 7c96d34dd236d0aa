import Census.Proofs.Cache.Sound

/-! The counters of a cache against what its callers do. Every request and every offer that an open
cache meets is counted once in the end: what waits is counted when the buffer is taken in, unless
it is withdrawn before. -/
namespace Census.Cache

variable {β σ : Type}

section Calls

variable (c : Cache β σ)

def lookups : Operation β → Nat
  | .get _ _ | .compute _ _ _ _ _ => if c.closed then 0 else 1
  | _ => 0

def offers : Operation β → Nat
  | .set _ (some _) _ => if c.closed then 0 else 1
  | .compute key now limit (some _) _ =>
    if c.closed ∨ (c.live? key now limit).1.isSome then 0 else 1
  | _ => 0

def withdrawals : Operation β → Nat
  | .delete key => c.pending.countP (·.key == key)
  | .clear | .close => c.pending.length
  | _ => 0

def removals : Operation β → Nat
  | .delete key => if c.resident key then 1 else 0
  | .clear | .close => c.costs.length
  | _ => 0

end Calls

def sum [RandomSource σ] (count : Cache β σ → Operation β → Nat) (c : Cache β σ) :
    List (Operation β) → Nat
  | [] => 0
  | op :: ops => count c op + (c.step op).sum count ops

/-- The counters of a later cache agree with what was asked and offered since, and with what went
out without a decision of the cache. -/
structure Counts (c c' : Cache β σ) (asked offered withdrawn removed : Nat) : Prop where
  lookups : c'.metrics.hits + c'.metrics.misses = c.metrics.hits + c.metrics.misses + asked
  offers : c'.metrics.keysAdded + c'.metrics.keysUpdated + c'.metrics.setsRejected +
      c'.pending.length + withdrawn =
    c.metrics.keysAdded + c.metrics.keysUpdated + c.metrics.setsRejected + c.pending.length +
      offered
  residents : c'.costs.length + c'.metrics.keysEvicted + removed + c.metrics.keysAdded =
    c.costs.length + c.metrics.keysEvicted + c'.metrics.keysAdded

namespace Counts

variable {c c' c'' : Cache β σ} {a b o p w v r q : Nat}

theorem refl (c : Cache β σ) : Counts c c 0 0 0 0 := by
  constructor <;> omega

theorem trans (h : Counts c c' a o w r) (h' : Counts c' c'' b p v q) :
    Counts c c'' (a + b) (o + p) (w + v) (r + q) := by
  obtain ⟨hlookups, hoffers, hresidents⟩ := h
  obtain ⟨hlookups', hoffers', hresidents'⟩ := h'
  constructor <;> omega

/-- What was taken out of the buffer to be decided on was not withdrawn. -/
theorem redeem (h : Counts c c' a (o + p) (w + p) r) : Counts c c' a o w r := by
  obtain ⟨hlookups, hoffers, hresidents⟩ := h
  constructor <;> omega

theorem cast (h : Counts c c' a o w r) (ha : a = b) (ho : o = p) (hw : w = v) (hr : r = q) :
    Counts c c' b p v q := by
  subst ha ho hw hr
  exact h

end Counts

section Parts

variable {c : Cache β σ}

theorem length_put (t : Table Int) (name : String) (cost : Int) :
    (t.put name cost).length = t.length + if t.has name then 0 else 1 := by
  have hnames := congrArg List.length (Table.names_put t name cost)
  rw [Table.names, List.length_map] at hnames
  rw [hnames]
  split <;> simp [Table.names]

theorem counts_remove (h : Balanced c) (key : String) :
    Counts c (c.remove key) 0 0 0 (if c.resident key then 1 else 0) := by
  cases hres : c.resident key with
  | false =>
    rw [remove_of_not_resident hres]
    exact Counts.refl c
  | true =>
    have hlength := length_costs_remove h hres
    constructor
    · simp [metrics_remove]
    · simp [metrics_remove]
    · rw [metrics_remove, if_pos rfl]
      omega

theorem counts_evict (h : Balanced c) {key : String} (hres : c.resident key = true) :
    Counts c (c.evict key) 0 0 0 0 := by
  have hlength : (c.evict key).costs.length + 1 = c.costs.length := length_costs_remove h hres
  have hmetrics : (c.evict key).metrics =
      { c.metrics with keysEvicted := c.metrics.keysEvicted + 1 } := by
    simp [evict, metrics_remove]
  constructor
  · simp [hmetrics]
  · simp [evict, metrics_remove]
  · rw [hmetrics]
    dsimp only
    omega

theorem counts_draw (c : Cache β σ) (random : σ) :
    Counts c { c with random := random } 0 0 0 0 where
  lookups := rfl
  offers := rfl
  residents := rfl

theorem counts_reject (c : Cache β σ) : Counts c c.reject 0 1 0 0 where
  lookups := rfl
  offers := by
    simp only [reject]
    omega
  residents := rfl

theorem counts_update {key : String} (hres : c.resident key = true) (hash : UInt64)
    (value : Stored β) (cost : Int) : Counts c (c.update key hash value cost) 0 1 0 0 where
  lookups := rfl
  offers := by
    simp only [update, place]
    omega
  residents := by
    have hlength := length_put c.costs key cost
    rw [show c.costs.has key = true from hres] at hlength
    simp [update, place, hlength]

theorem counts_enter {p : PendingSet β} (hres : c.resident p.key = false) :
    Counts c (c.enter p) 0 1 0 0 where
  lookups := rfl
  offers := by
    simp only [enter, place]
    omega
  residents := by
    have hlength := length_put c.costs p.key p.cost
    rw [show c.costs.has p.key = false from hres] at hlength
    simp only [enter, place, hlength, Bool.false_eq_true, if_false]
    omega

theorem Clears.counts {draw : Drawing σ} {incoming : Nat} {cost : Int} {r : Cache β σ}
    {gone : List String} {accepted : Bool} (h : Clears draw incoming cost c gone accepted r)
    (hfair : draw.Fair) (hb : Balanced c) : Counts c r 0 (if accepted then 0 else 1) 0 0 := by
  induction h with
  | @enough c _ => exact Counts.refl c
  | @refused c _ _ _ _ => exact (counts_draw c _).trans (counts_reject _)
  | @evicted c r victim gone accepted _ hleast _ _ ih =>
    have hres := hfair.resident hb hleast
    have hevict := (counts_draw c _).trans (counts_evict (hb.moved draw) hres)
    have hrest := ih (cleared_evict hb draw victim).balanced
    exact (hevict.trans hrest).cast rfl (Nat.zero_add _) rfl rfl

theorem counts_hold (c : Cache β σ) (p : PendingSet β) : Counts c (c.hold p) 0 1 0 0 where
  lookups := rfl
  offers := by
    simp only [hold, List.length_append, List.length_singleton]
    omega
  residents := rfl

theorem counts_ready (c : Cache β σ) : Counts c c.ready 0 0 c.pending.length 0 where
  lookups := rfl
  offers := by simp [ready, drainReads]
  residents := rfl

theorem counts_withdraw (c : Cache β σ) (key : String) :
    Counts c (c.withdraw key) 0 0 (c.pending.countP (·.key == key)) 0 where
  lookups := rfl
  offers := by
    have hsplit := List.length_eq_countP_add_countP (fun p => p.key == key) (l := c.pending)
    have hkept : (c.withdraw key).pending.length =
        c.pending.countP (fun p => ¬(p.key == key) = true) := by
      rw [List.countP_eq_length_filter]
      simp [withdraw, bne, beq_eq_decide]
    rw [hkept]
    simp only [withdraw]
    omega
  residents := rfl

theorem counts_clear (c : Cache β σ) :
    Counts c c.clear 0 0 c.pending.length c.costs.length where
  lookups := rfl
  offers := by simp [clear]
  residents := by simp [clear, Nat.add_comm]

theorem counts_close (c : Cache β σ) :
    Counts c c.close 0 0 c.pending.length c.costs.length where
  lookups := rfl
  offers := by simp [close, clear]
  residents := by simp [close, clear, Nat.add_comm]

theorem counts_get (c : Cache β σ) (key : String) (contended : Bool) :
    Counts c (c.get key contended).2 (if c.closed then 0 else 1) 0 0 0 := by
  cases hclosed : c.closed with
  | true =>
    have hget : (c.get key contended).2 = c := by simp [get, hclosed]
    rw [hget]
    exact Counts.refl c
  | false =>
    have hget : ∃ sketch reads, (c.get key contended).2 =
        { c with sketch := sketch, reads := reads }.countLookup (c.lookup key).isSome := by
      simp only [get, hclosed, Bool.false_eq_true, if_false, recordAccess]
      split <;> exact ⟨_, _, rfl⟩
    obtain ⟨sketch, reads, hget⟩ := hget
    rw [hget]
    cases (c.lookup key).isSome <;> constructor <;> simp [countLookup] <;> omega

end Parts

variable [RandomSource σ] {c : Cache β σ}

theorem counts_settle (h : Balanced c) (p : PendingSet β) : Counts c (c.settle p) 0 1 0 0 := by
  cases hres : c.resident p.key with
  | true =>
    unfold settle
    rw [if_pos hres]
    exact counts_update hres p.hash p.value p.cost
  | false =>
    obtain ⟨gone, hdecides⟩ := decides_settle h hres
    generalize c.settle p = last at hdecides ⊢
    cases hdecides with
    | @entered r hclears =>
      have habsent := (hclears.cleared h).not_resident hres
      exact (hclears.counts fair_own h).trans (counts_enter habsent)
    | refused hclears => exact hclears.counts fair_own h

theorem counts_settleAll (h : Balanced c) {ps : List (PendingSet β)}
    (hps : ∀ p ∈ ps, Admissible c.sizes p) : Counts c (ps.foldl settle c) 0 ps.length 0 0 := by
  induction ps generalizing c with
  | nil => exact Counts.refl c
  | cons p ps ih =>
    have hrest : ∀ q ∈ ps, Admissible (c.settle p).sizes q := by
      rw [(settle_frame c p).1]
      exact fun q hq => hps q (List.mem_cons_of_mem p hq)
    have hall := (counts_settle h p).trans (ih (h.settle (hps p List.mem_cons_self)) hrest)
    exact hall.cast rfl (Nat.add_comm 1 ps.length) rfl rfl

theorem counts_wait (h : Balanced c) (hps : ∀ p ∈ c.pending, Admissible c.sizes p) :
    Counts c c.wait 0 0 0 0 := by
  rcases wait_cases c with ⟨-, hwait⟩ | hwait
  · rw [hwait]
    exact Counts.refl c
  · rw [hwait]
    have hall := (counts_ready c).trans (counts_settleAll h.ready hps)
    exact Counts.redeem (hall.cast rfl rfl (Nat.add_comm _ 0) rfl)

theorem counts_set (h : Sound c) (key : String) (v : Stored β) (cost : Int) :
    Counts c (c.set key (some v) cost).2 0 (if c.closed then 0 else 1) 0 0 := by
  rcases set_cases c key (some v) cost with ⟨hrefused, -⟩ | ⟨_, hv, hopen, hcost, hcases⟩
  · cases hclosed : c.closed with
    | true =>
      have hset : (c.set key (some v) cost).2 = c := by simp [set, hclosed]
      rw [hset]
      exact Counts.refl c
    | false =>
      have hdear : c.sizes.maxCost < cost := by simpa [hclosed] using hrefused v rfl
      have hset : (c.set key (some v) cost).2 = c.reject := by simp [set, hclosed, hdear]
      rw [hset]
      exact counts_reject c
  · cases hv
    rw [hopen]
    have hheld := counts_hold c (offered key v cost)
    rcases hcases with ⟨hres, hset⟩ | ⟨-, -, hset⟩ | ⟨-, -, hset⟩
    · rw [hset]
      exact counts_update hres (keyHash key) v (max cost 1)
    · rw [hset]
      exact hheld
    · rw [hset]
      have hbalanced : Balanced (c.hold (offered key v cost)) := h.toBalanced.congr rfl rfl rfl rfl
      have hadmissible := h.admissible_hold (admissible_offered hcost key v)
      exact hheld.trans (counts_wait hbalanced hadmissible)

theorem counts_step (h : Sound c) (op : Operation β) :
    Counts c (c.step op) (c.lookups op) (c.offers op) (c.withdrawals op) (c.removals op) := by
  cases op with
  | set key value cost =>
    cases value with
    | none => exact Counts.refl c
    | some v => exact counts_set h key v cost
  | get key contended => exact counts_get c key contended
  | wait => exact counts_wait h.toBalanced h.admissible
  | delete key =>
    have hremoved := (counts_withdraw c key).trans (counts_remove (h.toBalanced.withdraw key) key)
    exact hremoved.cast rfl rfl rfl (Nat.zero_add _)
  | clear => exact counts_clear c
  | close => exact counts_close c
  | compute key now limit answer cost =>
    have hget := counts_get c key false
    have hasked : Sound (c.get key false).2 := h.get key false
    unfold step compute
    dsimp only
    rw [live?_eq]
    cases hlive : fresh? now limit (c.get key false).1 with
    | some payload =>
      refine hget.cast rfl ?_ rfl rfl
      cases answer <;> simp [offers, live?_eq, hlive]
    | none =>
      cases answer with
      | none => exact hget
      | some answer =>
        have hset := counts_set hasked key (.entry answer.1 answer.2) cost
        have hheld := hasked.set key (some (.entry answer.1 answer.2)) cost
        have hwait := counts_wait hheld.toBalanced hheld.admissible
        have hclosed : (c.get key false).2.closed = c.closed := by
          obtain ⟨sketch, reads, metrics, hget⟩ := get_frame c key false
          simp [hget]
        rw [hclosed] at hset
        refine (hget.trans (hset.trans hwait)).cast rfl ?_ rfl rfl
        simp [offers, live?_eq, hlive]

theorem counts_run (h : Sound c) (ops : List (Operation β)) :
    Counts c (c.run ops) (c.sum lookups ops) (c.sum offers ops) (c.sum withdrawals ops)
      (c.sum removals ops) := by
  induction ops generalizing c with
  | nil => exact Counts.refl c
  | cons op ops ih => exact (counts_step h op).trans (ih (h.step op))

/-- After any run every lookup was a hit or a miss, every offer was decided on, waits or was
withdrawn, and every key that entered is resident or went out. -/
theorem counters_run {config : CacheConfig} {random : σ} (h : make config random = .ok c)
    (ops : List (Operation β)) :
    let m := (c.run ops).metrics
    m.hits + m.misses = c.sum lookups ops ∧
      c.sum offers ops = m.keysAdded + m.keysUpdated + m.setsRejected +
        (c.run ops).pending.length + c.sum withdrawals ops ∧
      ((c.run ops).residents.length : Int) =
        m.keysAdded - m.keysEvicted - c.sum removals ops := by
  obtain ⟨hlookups, hoffers, hresidents⟩ := counts_run (sound_of_make h) ops
  obtain ⟨sizes, sketch, random', -, rfl⟩ := eq_ofSketch_of_make h
  simp only [ofSketch, List.length_nil] at hlookups hoffers hresidents ⊢
  unfold residents
  omega

/-- Two keys enter, one value is too dear, one replaces another, one is withdrawn before it is
decided on and one resident is taken out. -/
def mixed : List (Operation String) :=
  [.set "a" (some (.plain "x")) 5, .set "b" (some (.plain "y")) 5, .get "a" false,
    .set "c" (some (.plain "z")) 11, .set "a" (some (.plain "w")) 6, .set "d" (some (.plain "v")) 1,
    .delete "d", .delete "b", .get "b" true]

theorem counters_mixed : ∃ c : Cache String Congruential,
    make ⟨1, 10, 2⟩ ⟨1, []⟩ = .ok c ∧ (c.run mixed).metrics = ⟨1, 1, 2, 1, 0, 1⟩ ∧
      1 + 1 = c.sum lookups mixed ∧ c.sum offers mixed = 2 + 1 + 1 + 0 + c.sum withdrawals mixed ∧
      ((c.run mixed).residents.length : Int) = 2 - 0 - c.sum removals mixed := by
  obtain ⟨c, hmake, hmetrics, hpending⟩ : ∃ c : Cache String Congruential,
      make ⟨1, 10, 2⟩ ⟨1, []⟩ = .ok c ∧ (c.run mixed).metrics = ⟨1, 1, 2, 1, 0, 1⟩ ∧
        (c.run mixed).pending.length = 0 := ⟨_, rfl, by decide +kernel, by decide +kernel⟩
  have hcounts := counters_run hmake mixed
  rw [hmetrics, hpending] at hcounts
  exact ⟨c, hmake, hmetrics, hcounts⟩

end Census.Cache
