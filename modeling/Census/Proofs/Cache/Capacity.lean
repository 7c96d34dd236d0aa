import Census.Proofs.Cache.Accounts
import Census.Proofs.Cache.LastWrite
import Census.Proofs.Cache.Representation

/-! A cache with room for all that a run gives it. While the greatest costs of all keys fit beside
each other no key is evicted or refused, and once the buffer is taken in the cache answers as a
plain table that took every value at once. -/
namespace Census.Cache

variable {β σ : Type}

def Admits (bounds : Table Int) (key : String) (cost : Int) : Prop :=
  ∃ bound, bounds.get? key = some bound ∧ cost ≤ bound

structure Fits (bounds : Table Int) (maxCost : Int) : Prop where
  distinct : bounds.names.Nodup
  nonneg : ∀ key bound, bounds.get? key = some bound → 0 ≤ bound
  budget : bounds.total ≤ maxCost

section Bounds

variable {bounds : Table Int} {maxCost : Int}

theorem Fits.total_le (h : Fits bounds maxCost) {t : Table Int} (ht : t.names.Nodup)
    (hadmits : ∀ key cost, t.get? key = some cost → Admits bounds key cost) : t.total ≤ maxCost :=
  Int.le_trans (Table.total_le_total ht h.distinct h.nonneg hadmits) h.budget

theorem Fits.cost_le (h : Fits bounds maxCost) {key : String} {cost : Int}
    (hadmits : Admits bounds key cost) : cost ≤ maxCost := by
  have htotal : Table.total [(key, cost)] = cost := by simp [Table.total]
  rw [← htotal]
  refine h.total_le (List.nodup_singleton key) ?_
  intro other cost' hother
  simp only [Table.get?] at hother
  split at hother
  · rename_i hkey
    rw [← hkey, ← Option.some.inj hother]
    exact hadmits
  · cases hother

end Bounds

section Held

def laid (c : Cache β σ) (key : String) : Option (Stored β × Int) :=
  (c.lookup key).bind fun value => (c.costs.get? key).map (value, ·)

def held (c : Cache β σ) (key : String) : Option (Stored β × Int) :=
  ((lastEntry c.pending key).map fun p => (p.value, p.cost)).or (c.laid key)

variable {c : Cache β σ}

theorem laid_put {c' : Cache β σ} {key : String} {value : Stored β} {cost : Int}
    (hshards : c'.shards = (c.place key (keyHash key) value).shards)
    (hcosts : c'.costs = c.costs.put key cost) (other : String) :
    c'.laid other = if key = other then some (value, cost) else c.laid other := by
  have hlookup : c'.lookup other = if key = other then some value else c.lookup other := by
    rw [← lookup_place]
    unfold lookup
    rw [hshards]
  unfold laid
  rw [hlookup, hcosts, Table.get?_put]
  split <;> rfl

theorem laid_update (c : Cache β σ) (key : String) (value : Stored β) (cost : Int)
    (other : String) : (c.update key (keyHash key) value cost).laid other =
      if key = other then some (value, cost) else c.laid other := by
  apply laid_put <;> rfl

theorem Balanced.laid_remove (h : Balanced c) (key other : String) :
    (c.remove key).laid other = if key = other then none else c.laid other := by
  unfold laid
  rw [h.lookup_remove, costs_remove, Table.get?_remove]
  split <;> rfl

theorem Balanced.map_fst_laid (h : Balanced c) (key : String) :
    (c.laid key).map (·.1) = c.lookup key := by
  unfold laid
  cases hlookup : c.lookup key with
  | none => rfl
  | some value =>
    have hres := h.isSome_lookup key
    rw [hlookup] at hres
    obtain ⟨cost, hcost⟩ := exists_cost hres.symm
    rw [hcost]
    rfl

theorem Balanced.map_snd_laid (h : Balanced c) (key : String) :
    (c.laid key).map (·.2) = c.costs.get? key := by
  unfold laid
  cases hcost : c.costs.get? key with
  | none => cases c.lookup key <;> rfl
  | some cost =>
    have hlookup := h.isSome_lookup key
    rw [← get?_costs_isSome, hcost] at hlookup
    obtain ⟨value, hvalue⟩ := Option.isSome_iff_exists.mp hlookup
    rw [hvalue]
    rfl

theorem held_of_pending_eq_nil (h : c.pending = []) (key : String) : c.held key = c.laid key := by
  unfold held
  rw [h]
  rfl

theorem held_hold (c : Cache β σ) (p : PendingSet β) (key : String) :
    (c.hold p).held key = if p.key = key then some (p.value, p.cost) else c.held key := by
  have hlast := lastEntry_append_singleton c.pending p key
  unfold held hold
  dsimp only
  rw [hlast]
  split <;> rfl

theorem Balanced.held_delete (h : Balanced c) (key other : String) :
    (c.delete key).held other = if key = other then none else c.held other := by
  have hlaid := (h.withdraw key).laid_remove key other
  have hlast := lastEntry_filter c.pending key other
  rw [delete_eq]
  unfold held
  rw [pending_remove, hlaid]
  unfold Cache.withdraw
  dsimp only
  rw [hlast]
  split <;> rfl

theorem Sound.held_update (h : Sound c) {key : String} (hres : c.resident key = true)
    (value : Stored β) (cost : Int) (other : String) :
    (c.update key (keyHash key) value cost).held other =
      if key = other then some (value, cost) else c.held other := by
  have hlaid := laid_update c key value cost other
  unfold held
  rw [hlaid]
  by_cases hkey : key = other
  · have hlast : lastEntry (c.update key (keyHash key) value cost).pending other = none :=
      h.lastEntry_eq_none (hkey ▸ hres)
    rw [if_pos hkey, if_pos hkey, hlast]
    rfl
  · rw [if_neg hkey, if_neg hkey]
    rfl

end Held

def Spared (m : CacheMetrics) : Prop :=
  m.keysEvicted = 0 ∧ m.setsRejected = 0

/-- A cache whose residents are within bounds that fit into its budget. -/
structure Roomy (bounds : Table Int) (c : Cache β σ) : Prop extends Balanced c where
  fits : Fits bounds c.sizes.maxCost
  admits : ∀ key cost, c.costs.get? key = some cost → Admits bounds key cost
  spared : Spared c.metrics

section Roomy

variable {bounds : Table Int} {c : Cache β σ}

theorem Roomy.congr (h : Roomy bounds c) {c' : Cache β σ} (hsizes : c'.sizes = c.sizes)
    (hshards : c'.shards = c.shards) (hcosts : c'.costs = c.costs)
    (hused : c'.usedCost = c.usedCost) (hspared : Spared c'.metrics) : Roomy bounds c' where
  toBalanced := h.toBalanced.congr hsizes hshards hcosts hused
  fits := by
    rw [hsizes]
    exact h.fits
  admits := by
    rw [hcosts]
    exact h.admits
  spared := hspared

theorem Roomy.put (h : Roomy bounds c) {key : String} {value : Stored β} {cost : Int}
    (hone : 1 ≤ cost) (hadmits : Admits bounds key cost) {c' : Cache β σ}
    (hsizes : c'.sizes = c.sizes) (hshards : c'.shards = (c.place key (keyHash key) value).shards)
    (hcosts : c'.costs = c.costs.put key cost)
    (hused : c'.usedCost = c.usedCost + (cost - (c.costs.get? key).getD 0))
    (hspared : Spared c'.metrics) : Roomy bounds c' where
  toBalanced := h.toBalanced.put ⟨hone, h.fits.cost_le hadmits⟩ hsizes hshards hcosts hused
  fits := by
    rw [hsizes]
    exact h.fits
  admits := by
    intro other cost' hother
    rw [hcosts, Table.get?_put] at hother
    split at hother
    · rename_i hkey
      rw [← hkey, ← Option.some.inj hother]
      exact hadmits
    · exact h.admits other cost' hother
  spared := hspared

theorem Roomy.remove (h : Roomy bounds c) (key : String) : Roomy bounds (c.remove key) where
  toBalanced := h.toBalanced.remove key
  fits := by
    rw [sizes_remove]
    exact h.fits
  admits := by
    intro other cost hother
    rw [costs_remove, Table.get?_remove] at hother
    split at hother
    · cases hother
    · exact h.admits other cost hother
  spared := by
    rw [metrics_remove]
    exact h.spared

theorem Roomy.used_add_le (h : Roomy bounds c) {key : String} {cost : Int}
    (hres : c.resident key = false) (hadmits : Admits bounds key cost) :
    c.usedCost + cost ≤ c.sizes.maxCost := by
  have htotal := Table.total_put c.costs key cost
  rw [get?_costs_of_not_resident hres, Option.getD_none, Int.sub_zero, ← h.used] at htotal
  rw [← htotal]
  refine h.fits.total_le (Table.nodup_names_put h.nodup key cost) ?_
  intro other cost' hother
  rw [Table.get?_put] at hother
  split at hother
  · rename_i hkey
    rw [← hkey, ← Option.some.inj hother]
    exact hadmits
  · exact h.admits other cost' hother

variable [RandomSource σ]

theorem makeRoom_of_fits (incoming : Nat) {cost : Int} (h : c.usedCost + cost ≤ c.sizes.maxCost)
    (fuel : Nat) : makeRoom incoming cost fuel c = (true, c) := by
  cases fuel with
  | zero => rfl
  | succ fuel => rw [makeRoom, if_pos (.inl h)]

theorem Roomy.settle (h : Roomy bounds c) {p : PendingSet β} (hp : Admissible c.sizes p)
    (hadmits : Admits bounds p.key p.cost) :
    Roomy bounds (c.settle p) ∧ ∀ key, (c.settle p).laid key =
      if p.key = key then some (p.value, p.cost) else c.laid key := by
  cases hres : c.resident p.key with
  | true =>
    have hsettle : c.settle p = c.update p.key (keyHash p.key) p.value p.cost := by
      unfold Cache.settle
      rw [if_pos hres, hp.hash_eq]
    rw [hsettle]
    exact ⟨h.put hp.one_le hadmits rfl rfl rfl rfl h.spared, laid_update c p.key p.value p.cost⟩
  | false =>
    have hroom := makeRoom_of_fits (c.sketch.estimate p.hash) (h.used_add_le hres hadmits)
      c.costs.length
    have hsettle : c.settle p = c.enter p := by
      unfold Cache.settle consider
      rw [hres, if_neg Bool.false_ne_true, hroom]
    have hshards : (c.enter p).shards = (c.place p.key (keyHash p.key) p.value).shards := by
      rw [← hp.hash_eq]
      rfl
    rw [hsettle]
    refine ⟨h.put hp.one_le hadmits rfl hshards rfl ?_ h.spared, laid_put hshards rfl⟩
    rw [get?_costs_of_not_resident hres, Option.getD_none, Int.sub_zero]
    rfl

theorem Roomy.settleAll (h : Roomy bounds c) {ps : List (PendingSet β)}
    (hps : ∀ p ∈ ps, Admissible c.sizes p ∧ Admits bounds p.key p.cost) :
    Roomy bounds (ps.foldl Cache.settle c) ∧ ∀ key, (ps.foldl Cache.settle c).laid key =
      ((lastEntry ps key).map fun p => (p.value, p.cost)).or (c.laid key) := by
  induction ps generalizing c with
  | nil => exact ⟨h, fun key => rfl⟩
  | cons p ps ih =>
    obtain ⟨hp, hadmits⟩ := hps p List.mem_cons_self
    obtain ⟨hsettled, hlaid⟩ := h.settle hp hadmits
    have hrest : ∀ q ∈ ps, Admissible (c.settle p).sizes q ∧ Admits bounds q.key q.cost := by
      rw [(settle_frame c p).1]
      exact fun q hq => hps q (List.mem_cons_of_mem p hq)
    obtain ⟨hall, hlast⟩ := ih hsettled hrest
    refine ⟨hall, fun key => ?_⟩
    rw [List.foldl_cons, hlast, hlaid, lastEntry]
    cases lastEntry ps key with
    | some q => rfl
    | none => split <;> rfl

end Roomy

/-- An open cache that holds what a table holds, with the costs. -/
structure Copies (bounds : Table Int) (c : Cache β σ) (t : Table (Stored β × Int)) : Prop
    extends Sound c, Roomy bounds c where
  opened : c.closed = false
  waitingAdmits : ∀ p ∈ c.pending, Admits bounds p.key p.cost
  distinct : t.names.Nodup
  held : ∀ key, c.held key = t.get? key

section Copies

variable {bounds : Table Int} {c : Cache β σ} {t : Table (Stored β × Int)}

theorem spared_get (c : Cache β σ) (key : String) (contended : Bool) (h : Spared c.metrics) :
    Spared (c.get key contended).2.metrics := by
  have hfound : ∀ (c : Cache β σ) (found : Bool), Spared c.metrics →
      Spared (c.countLookup found).metrics := by
    intro c found hc
    unfold countLookup
    cases found <;> exact hc
  unfold get
  split
  · exact h
  · refine hfound _ _ ?_
    unfold recordAccess
    dsimp only
    split <;> exact h

theorem Copies.get (h : Copies bounds c t) (key : String) (contended : Bool) :
    Copies bounds (c.get key contended).2 t := by
  have hspared := spared_get c key contended h.spared
  have hsound := h.toSound.get key contended
  obtain ⟨sketch, reads, metrics, hget⟩ := get_frame c key contended
  rw [hget] at hspared hsound ⊢
  exact
    { toSound := hsound
      fits := h.fits
      admits := h.admits
      spared := hspared
      opened := h.opened
      waitingAdmits := h.waitingAdmits
      distinct := h.distinct
      held := h.held }

theorem Roomy.delete (h : Roomy bounds c) (key : String) : Roomy bounds (c.delete key) := by
  have hwithdrawn : Roomy bounds (c.withdraw key) := h.congr rfl rfl rfl rfl h.spared
  exact hwithdrawn.remove key

theorem Copies.delete (h : Copies bounds c t) (key : String) :
    Copies bounds (c.delete key) (t.remove key) where
  toSound := h.toSound.delete key
  fits := (h.toRoomy.delete key).fits
  admits := (h.toRoomy.delete key).admits
  spared := (h.toRoomy.delete key).spared
  opened := by
    rw [delete_eq, closed_remove]
    exact h.opened
  waitingAdmits := by
    intro p hp
    rw [delete_eq, pending_remove] at hp
    exact h.waitingAdmits p (List.mem_filter.mp hp).1
  distinct := Table.nodup_names_remove h.distinct key
  held := by
    intro other
    rw [h.toBalanced.held_delete, Table.get?_remove, h.held]

theorem copies_clear (h : Copies bounds c t) : Copies bounds c.clear [] where
  toSound := sound_clear c
  fits := h.fits
  admits := by
    intro key cost hcost
    cases hcost
  spared := h.spared
  opened := h.opened
  waitingAdmits := by simp [clear]
  distinct := List.nodup_nil
  held := by
    intro key
    simp [Cache.held, laid, clear, lastEntry, lookup, Table.get?]

/-- A cache that answers as a table does and uses what the table costs. -/
structure StandsFor (c : Cache β σ) (t : Table (Stored β × Int)) : Prop where
  answers : ∀ key contended, (c.get key contended).1 = (t.get? key).map (·.1)
  used : c.usedCost = Table.total (t.map fun entry => (entry.1, entry.2.2))

theorem Copies.standsFor (h : Copies bounds c t) (hpending : c.pending = []) : StandsFor c t where
  answers := by
    intro key contended
    rw [get_fst h.toSound, ← h.held, held_of_pending_eq_nil hpending, h.toBalanced.map_fst_laid]
    cases hres : c.resident key with
    | true =>
      unfold newest
      rw [hpending]
      rfl
    | false => exact (h.toBalanced.lookup_eq_none hres).symm
  used := by
    have hcosts : ∀ key,
        c.costs.get? key = Table.get? (t.map fun entry => (entry.1, entry.2.2)) key := by
      intro key
      rw [Table.get?_map t fun entry => entry.2, ← h.held, held_of_pending_eq_nil hpending,
        h.toBalanced.map_snd_laid]
    have hnodup : (Table.names (t.map fun entry => (entry.1, entry.2.2))).Nodup := by
      have hdistinct := h.distinct
      unfold Table.names at hdistinct ⊢
      rwa [List.map_map]
    have hnonneg : ∀ key cost, c.costs.get? key = some cost → 0 ≤ cost :=
      fun key cost hcost => Int.le_trans Int.one_nonneg (h.charged key cost hcost).1
    rw [h.used]
    refine Int.le_antisymm (Table.total_le_total h.nodup hnodup ?_ ?_)
      (Table.total_le_total hnodup h.nodup hnonneg ?_)
    · intro key cost hcost
      exact hnonneg key cost ((hcosts key).trans hcost)
    · intro key cost hcost
      exact ⟨cost, (hcosts key).symm.trans hcost, Int.le_refl cost⟩
    · intro key cost hcost
      exact ⟨cost, (hcosts key).trans hcost, Int.le_refl cost⟩

variable [RandomSource σ]

theorem copies_wait (hroomy : Roomy bounds c) (hopen : c.closed = false)
    (hps : ∀ p ∈ c.pending, Admissible c.sizes p ∧ Admits bounds p.key p.cost)
    (hdistinct : t.names.Nodup) (hheld : ∀ key, c.held key = t.get? key) :
    Copies bounds c.wait t ∧ c.wait.pending = [] := by
  have hsound : Sound c.wait := by
    refine sound_wait hroomy.toBalanced (fun p hp => (hps p hp).1) fun hclosed => ?_
    rw [hopen] at hclosed
    cases hclosed
  have hclosed : c.wait.closed = false := (closed_wait c).trans hopen
  rcases wait_cases c with ⟨hpending, hwait⟩ | hwait
  · rw [hwait] at hsound hclosed ⊢
    refine ⟨?_, hpending⟩
    exact
      { toSound := hsound
        fits := hroomy.fits
        admits := hroomy.admits
        spared := hroomy.spared
        opened := hclosed
        waitingAdmits := fun p hp => (hps p hp).2
        distinct := hdistinct
        held := hheld }
  · have hpending : c.wait.pending = [] := by
      rw [hwait, (settleAll_frame c.ready c.pending).2.1]
      rfl
    have hready : Roomy bounds c.ready := hroomy.congr rfl rfl rfl rfl hroomy.spared
    obtain ⟨hall, hlaid⟩ := hready.settleAll hps
    rw [← hwait] at hall hlaid
    have hcopied : ∀ key, c.wait.held key = t.get? key := by
      intro key
      rw [held_of_pending_eq_nil hpending, hlaid, ← hheld]
      rfl
    refine ⟨?_, hpending⟩
    exact
      { toSound := hsound
        fits := hall.fits
        admits := hall.admits
        spared := hall.spared
        opened := hclosed
        waitingAdmits := by simp [hpending]
        distinct := hdistinct
        held := hcopied }

theorem Copies.wait (h : Copies bounds c t) : Copies bounds c.wait t ∧ c.wait.pending = [] :=
  copies_wait h.toRoomy h.opened (fun p hp => ⟨h.admissible p hp, h.waitingAdmits p hp⟩) h.distinct
    h.held

theorem Copies.set (h : Copies bounds c t) {key : String} (v : Stored β) {cost : Int}
    (hadmits : Admits bounds key (max cost 1)) :
    (c.set key (some v) cost).1 = true ∧
      Copies bounds (c.set key (some v) cost).2 (t.put key (v, max cost 1)) ∧
      (c.resident key = false → c.sizes.bufferItems ≤ c.pending.length + 1 →
        (c.set key (some v) cost).2.pending = []) := by
  have hfits : cost ≤ c.sizes.maxCost :=
    Int.le_trans (Int.le_max_left cost 1) (h.fits.cost_le hadmits)
  have hsound := h.toSound.set key (some v) cost
  rcases set_cases c key (some v) cost with ⟨hrefused, -⟩ | ⟨_, hv, -, hcost, hcases⟩
  · rcases hrefused v rfl with hclosed | hdear
    · rw [h.opened] at hclosed
      cases hclosed
    · exact absurd hfits (Int.not_le.mpr hdear)
  · cases hv
    have hoffer := admissible_offered hcost key v
    have hdistinct := Table.nodup_names_put h.distinct key (v, max cost 1)
    have hheld : ∀ other, (c.hold (offered key v cost)).held other =
        (t.put key (v, max cost 1)).get? other := by
      intro other
      rw [held_hold, Table.get?_put, h.held]
      rfl
    have hwaiting : ∀ p ∈ (c.hold (offered key v cost)).pending, Admits bounds p.key p.cost := by
      intro p hp
      rcases List.mem_append.mp hp with hp | hp
      · exact h.waitingAdmits p hp
      · rw [List.mem_singleton.mp hp]
        exact hadmits
    rcases hcases with ⟨hres, hset⟩ | ⟨-, hroom, hset⟩ | ⟨-, -, hset⟩
    · rw [hset] at hsound ⊢
      have hput : Roomy bounds (c.update key (keyHash key) v (max cost 1)) :=
        h.toRoomy.put hoffer.one_le hadmits rfl rfl rfl rfl h.spared
      refine ⟨rfl, ?_, fun hnew => absurd (hres.symm.trans hnew) Bool.noConfusion⟩
      exact
        { toSound := hsound
          fits := hput.fits
          admits := hput.admits
          spared := hput.spared
          opened := h.opened
          waitingAdmits := h.waitingAdmits
          distinct := hdistinct
          held := fun other => by rw [h.toSound.held_update hres, Table.get?_put, h.held] }
    · rw [hset] at hsound ⊢
      refine ⟨rfl, ?_, fun _ hfull => absurd hroom (Nat.not_lt.mpr hfull)⟩
      exact
        { toSound := hsound
          fits := h.fits
          admits := h.admits
          spared := h.spared
          opened := h.opened
          waitingAdmits := hwaiting
          distinct := hdistinct
          held := hheld }
    · rw [hset]
      have hroomy : Roomy bounds (c.hold (offered key v cost)) :=
        h.toRoomy.congr rfl rfl rfl rfl h.spared
      obtain ⟨hcopies, hpending⟩ := copies_wait hroomy h.opened
        (fun p hp => ⟨h.admissible_hold hoffer p hp, hwaiting p hp⟩) hdistinct hheld
      exact ⟨rfl, hcopies, fun _ _ => hpending⟩

end Copies

section Writes

def write? (c : Cache β σ) : Operation β → Option (PendingSet β)
  | .set key (some v) cost => some (offered key v cost)
  | .compute key now limit (some (payload, time)) cost =>
    match (c.live? key now limit).1 with
    | some _ => none
    | none => some (offered key (.entry payload time) cost)
  | _ => none

/-- Whether an operation on an open cache takes the buffer in, on demand or because it is full. -/
def takesIn (c : Cache β σ) : Operation β → Bool
  | .wait => true
  | .set key (some _) _ =>
    !c.resident key && decide (c.sizes.bufferItems ≤ c.pending.length + 1)
  | .compute key now limit (some _) _ => (c.live? key now limit).1.isNone
  | _ => false

def record (c : Cache β σ) (t : Table (Stored β × Int)) (op : Operation β) :
    Table (Stored β × Int) :=
  match c.write? op with
  | some p => t.put p.key (p.value, p.cost)
  | none =>
    match op with
    | .delete key => t.remove key
    | .clear => []
    | _ => t

/-- The greatest cost of each key. -/
def raise (bounds : Table Int) (p : PendingSet β) : Table Int :=
  bounds.put p.key (max p.cost ((bounds.get? p.key).getD p.cost))

def dearest (ps : List (PendingSet β)) : Table Int :=
  ps.foldl raise []

theorem admits_raise {bounds : Table Int} {key : String} {cost : Int} (p : PendingSet β)
    (h : Admits bounds key cost) : Admits (raise bounds p) key cost := by
  obtain ⟨bound, hbound, hle⟩ := h
  unfold Admits raise
  rw [Table.get?_put]
  by_cases hkey : p.key = key
  · rw [if_pos hkey, hkey, hbound, Option.getD_some]
    exact ⟨_, rfl, Int.le_trans hle (Int.le_max_right p.cost bound)⟩
  · rw [if_neg hkey]
    exact ⟨bound, hbound, hle⟩

theorem admits_raise_self (bounds : Table Int) (p : PendingSet β) :
    Admits (raise bounds p) p.key p.cost := by
  refine ⟨max p.cost ((bounds.get? p.key).getD p.cost), ?_, Int.le_max_left _ _⟩
  unfold raise
  rw [Table.get?_put, if_pos rfl]

theorem admits_dearest {ps : List (PendingSet β)} {p : PendingSet β} (h : p ∈ ps) :
    Admits (dearest ps) p.key p.cost := by
  induction ps using List.reverseRecOn with
  | nil => cases h
  | append_singleton ps q ih =>
    unfold dearest
    rw [List.foldl_append]
    rcases List.mem_append.mp h with h | h
    · exact admits_raise q (ih h)
    · rw [List.mem_singleton.mp h]
      exact admits_raise_self _ q

theorem fits_dearest {ps : List (PendingSet β)} (hcosts : ∀ p ∈ ps, 0 ≤ p.cost) {maxCost : Int}
    (hbudget : (dearest ps).total ≤ maxCost) : Fits (dearest ps) maxCost := by
  have hall : (dearest ps).names.Nodup ∧
      ∀ key bound, (dearest ps).get? key = some bound → 0 ≤ bound := by
    clear hbudget
    induction ps using List.reverseRecOn with
    | nil => exact ⟨List.nodup_nil, fun key bound hbound => by cases hbound⟩
    | append_singleton ps p ih =>
      obtain ⟨hdistinct, hnonneg⟩ := ih fun q hq => hcosts q (List.mem_append_left _ hq)
      have hp : 0 ≤ p.cost := hcosts p (List.mem_append_right _ List.mem_cons_self)
      unfold dearest at hdistinct hnonneg ⊢
      rw [List.foldl_append]
      refine ⟨Table.nodup_names_put hdistinct _ _, fun key bound hbound => ?_⟩
      simp only [List.foldl_cons, List.foldl_nil, raise, Table.get?_put] at hbound
      split at hbound
      · rw [← Option.some.inj hbound]
        exact Int.le_trans hp (Int.le_max_left _ _)
      · exact hnonneg key bound hbound
  exact ⟨hall.1, hall.2, hbudget⟩

theorem one_le_of_write? {c : Cache β σ} {op : Operation β} {p : PendingSet β}
    (h : c.write? op = some p) : 1 ≤ p.cost := by
  unfold write? at h
  split at h
  · rw [← Option.some.inj h]
    exact Int.le_max_right _ _
  · split at h
    · cases h
    · rw [← Option.some.inj h]
      exact Int.le_max_right _ _
  · cases h

end Writes

section Run

variable [RandomSource σ] {bounds : Table Int} {c : Cache β σ} {t : Table (Stored β × Int)}

def writes (c : Cache β σ) : List (Operation β) → List (PendingSet β)
  | [] => []
  | op :: ops => (c.write? op).toList ++ (c.step op).writes ops

def dictionary (c : Cache β σ) (t : Table (Stored β × Int)) :
    List (Operation β) → Table (Stored β × Int)
  | [] => t
  | op :: ops => (c.step op).dictionary (c.record t op) ops

theorem writes_append (c : Cache β σ) (ops ops' : List (Operation β)) :
    c.writes (ops ++ ops') = c.writes ops ++ (c.run ops).writes ops' := by
  induction ops generalizing c with
  | nil => rfl
  | cons op ops ih =>
    rw [List.cons_append, writes, writes, ih, List.append_assoc]
    rfl

theorem dictionary_append_singleton (c : Cache β σ) (t : Table (Stored β × Int))
    (ops : List (Operation β)) (op : Operation β) :
    c.dictionary t (ops ++ [op]) = (c.run ops).record (c.dictionary t ops) op := by
  induction ops generalizing c t with
  | nil => rfl
  | cons first ops ih => exact ih (c.step first) (c.record t first)

theorem one_le_of_mem_writes {ops : List (Operation β)} {p : PendingSet β} (h : p ∈ c.writes ops) :
    1 ≤ p.cost := by
  induction ops generalizing c with
  | nil => cases h
  | cons op ops ih =>
    rcases List.mem_append.mp h with h | h
    · exact one_le_of_write? (Option.mem_toList.mp h)
    · exact ih h

theorem Copies.step (h : Copies bounds c t) {op : Operation β} (hopen : op ≠ .close)
    (hwrite : ∀ p ∈ c.write? op, Admits bounds p.key p.cost) :
    Copies bounds (c.step op) (c.record t op) ∧
      (c.takesIn op = true → (c.step op).pending = []) := by
  cases op with
  | set key value cost =>
    cases value with
    | none =>
      have hset : (c.set key none cost).2 = c := by simp [Cache.set]
      unfold Cache.step
      dsimp only
      rw [hset]
      exact ⟨h, fun hno => Bool.noConfusion hno⟩
    | some v =>
      obtain ⟨-, hcopies, hfull⟩ := h.set v (hwrite _ rfl)
      refine ⟨hcopies, fun htakes => ?_⟩
      simp only [takesIn, Bool.and_eq_true, Bool.not_eq_true', decide_eq_true_eq] at htakes
      exact hfull htakes.1 htakes.2
  | get key contended => exact ⟨h.get key contended, fun hno => Bool.noConfusion hno⟩
  | wait => exact ⟨h.wait.1, fun _ => h.wait.2⟩
  | delete key => exact ⟨h.delete key, fun hno => Bool.noConfusion hno⟩
  | clear => exact ⟨copies_clear h, fun hno => Bool.noConfusion hno⟩
  | close => exact absurd rfl hopen
  | compute key now limit answer cost =>
    have hasked : Copies bounds (c.get key false).2 t := h.get key false
    cases answer with
    | none =>
      refine ⟨?_, fun hno => Bool.noConfusion hno⟩
      simp only [Cache.step, record, write?, compute, live?_eq]
      cases fresh? now limit (c.get key false).1 <;> exact hasked
    | some answer =>
      obtain ⟨payload, time⟩ := answer
      simp only [Cache.step, record, takesIn, write?, compute, live?_eq] at hwrite ⊢
      cases hlive : fresh? now limit (c.get key false).1 with
      | some payload => exact ⟨hasked, fun hno => Bool.noConfusion hno⟩
      | none =>
        rw [hlive] at hwrite
        obtain ⟨-, hcopies, -⟩ := hasked.set (.entry payload time) (hwrite _ rfl)
        exact ⟨hcopies.wait.1, fun _ => hcopies.wait.2⟩

theorem Copies.run (h : Copies bounds c t) {ops : List (Operation β)} (hopen : .close ∉ ops)
    (hwrites : ∀ p ∈ c.writes ops, Admits bounds p.key p.cost) :
    Copies bounds (c.run ops) (c.dictionary t ops) := by
  induction ops generalizing c t with
  | nil => exact h
  | cons op ops ih =>
    obtain ⟨hfirst, hrest⟩ := List.forall_mem_append.mp hwrites
    refine ih (h.step ?_ ?_).1 (fun hclose => hopen (List.mem_cons_of_mem op hclose)) hrest
    · rintro rfl
      exact hopen List.mem_cons_self
    · exact fun p hp => hfirst p (Option.mem_toList.mpr hp)

theorem copies_of_make {config : CacheConfig} {random : σ} (h : make config random = .ok c)
    (hfits : Fits bounds config.maxCost) : Copies bounds c [] := by
  have hsound := sound_of_make h
  obtain ⟨sizes, sketch, random', hsizes, rfl⟩ := exists_sizes_of_make h
  exact
    { toSound := hsound
      fits := by
        rw [← (sizes_eq hsizes).1] at hfits
        exact hfits
      admits := fun key cost hcost => by cases hcost
      spared := ⟨rfl, rfl⟩
      opened := rfl
      waitingAdmits := fun p hp => by cases hp
      distinct := List.nodup_nil
      held := fun key => by simp [Cache.held, laid, ofSketch, lastEntry, lookup, Table.get?] }

/-- Where the greatest costs of all keys of a run fit beside each other, nothing is ever evicted or
refused, and the cache stands for a plain table whenever its buffer was taken in. -/
theorem standsFor_run {config : CacheConfig} {random : σ} (hmake : make config random = .ok c)
    {ops : List (Operation β)} (hopen : .close ∉ ops)
    (hroom : (dearest (c.writes ops)).total ≤ config.maxCost) {before : List (Operation β)}
    (hbefore : before <+: ops) :
    Spared (c.run before).metrics ∧
      ((c.run before).pending = [] → StandsFor (c.run before) (c.dictionary [] before)) ∧
      ∀ op, before ++ [op] <+: ops →
        (∀ key v cost, op = .set key (some v) cost →
          ((c.run before).set key (some v) cost).1 = true) ∧
        ((c.run before).takesIn op = true →
          StandsFor ((c.run before).step op) (c.dictionary [] (before ++ [op]))) := by
  have hcosts : ∀ p ∈ c.writes ops, 0 ≤ p.cost :=
    fun p hp => Int.le_trans Int.one_nonneg (one_le_of_mem_writes hp)
  have hcopies := copies_of_make hmake (fits_dearest hcosts hroom)
  -- a part of the run writes no more than the whole of it
  have hpart : ∀ {part}, part <+: ops →
      .close ∉ part ∧ ∀ p ∈ c.writes part, Admits (dearest (c.writes ops)) p.key p.cost := by
    rintro part ⟨rest, rfl⟩
    refine ⟨fun hclose => hopen (List.mem_append_left rest hclose), fun p hp => admits_dearest ?_⟩
    rw [writes_append]
    exact List.mem_append_left _ hp
  have hrun := hcopies.run (hpart hbefore).1 (hpart hbefore).2
  refine ⟨hrun.spared, hrun.standsFor, fun op hop => ?_⟩
  obtain ⟨hopened, hadmits⟩ := hpart hop
  rw [writes_append] at hadmits
  have hwrite : ∀ p ∈ (c.run before).write? op, Admits (dearest (c.writes ops)) p.key p.cost := by
    intro p hp
    apply hadmits p
    simp [writes, Option.mem_def.mp hp]
  constructor
  · rintro key v cost rfl
    exact (hrun.set v (hwrite _ rfl)).1
  · intro htakes
    have hstep := hrun.step (fun hclose => hopened (by simp [hclose])) hwrite
    rw [dictionary_append_singleton]
    exact hstep.1.standsFor (hstep.2 htakes)

def spacious : List (Operation String) :=
  [.set "a" (some (.plain "x")) 5, .set "a" (some (.plain "y")) 7, .set "b" (some (.plain "z")) 0,
    .set "b" (some (.plain "w")) 3, .get "b" true, .set "c" (some (.plain "v")) 2, .delete "a",
    .wait]

theorem standsFor_spacious : ∃ c : Cache String Congruential, make ⟨1, 12, 3⟩ ⟨1, []⟩ = .ok c ∧
    dearest (c.writes spacious) = [("a", 7), ("b", 3), ("c", 2)] ∧ Spared (c.run spacious).metrics ∧
      c.dictionary [] spacious = [("b", .plain "w", 3), ("c", .plain "v", 2)] ∧
      StandsFor (c.run spacious) (c.dictionary [] spacious) := by
  have hrun := @standsFor_run String Congruential _ _ ⟨1, 12, 3⟩ ⟨1, []⟩ rfl spacious
    (by simp [spacious]) (by decide +kernel) spacious List.prefix_rfl
  exact ⟨_, rfl, by decide +kernel, hrun.1, rfl, hrun.2.1 (by decide +kernel)⟩

end Run
end Census.Cache
