import Census.Proofs.Cache.Representation

/-! What goes for a new key, in every cache that a run may meet and however samples are drawn. Each
key that goes is the least requested of a sample of what is left, and none is requested more often
than the new one. -/
namespace Census.Cache

variable {β σ : Type}

structure Entered (c : Cache β σ) (p : PendingSet β) (gone : List String) (r : Cache β σ) :
    Prop where
  value : r.lookup p.key = some p.value
  cost : r.costs.get? p.key = some p.cost
  fits : r.usedCost ≤ c.sizes.maxCost
  metrics : r.metrics =
    { c.metrics with
      keysAdded := c.metrics.keysAdded + 1
      keysEvicted := c.metrics.keysEvicted + gone.length }

/-- The new key stays out, as every member of a sample of what is left is requested more often. -/
structure Refused (c : Cache β σ) (p : PendingSet β) (gone : List String) (r : Cache β σ) :
    Prop where
  absent : r.resident p.key = false ∧ r.lookup p.key = none
  metrics : r.metrics =
    { c.metrics with
      setsRejected := c.metrics.setsRejected + 1
      keysEvicted := c.metrics.keysEvicted + gone.length }
  outdone : ∃ keys, IsSample (c.costs.names.filter (· ∉ gone)) keys ∧ keys ≠ [] ∧
    ∀ key ∈ keys, c.sketch.estimate p.hash < c.frequency key

structure Displaces (c : Cache β σ) (p : PendingSet β) (gone : List String) (r : Cache β σ) :
    Prop where
  few : gone.length ≤ c.costs.length
  nodup : gone.Nodup
  idle : c.usedCost + p.cost ≤ c.sizes.maxCost → gone = []
  /-- Every key that goes is the least requested of a sample of what the earlier ones left, and
  requested no more than the new key. -/
  chosen : ∀ before key after, gone = before ++ key :: after →
    ∃ keys, IsSample (c.costs.names.filter (· ∉ before)) keys ∧ Least c keys key ∧
      c.frequency key ≤ c.sketch.estimate p.hash
  left : ∀ key, key ∈ gone ↔ c.resident key = true ∧ r.resident key = false
  spared : ∀ key, c.resident key = true → c.sketch.estimate p.hash < c.frequency key →
    r.resident key = true
  others : ∀ key, key ∉ gone → key ≠ p.key →
    r.lookup key = c.lookup key ∧ r.costs.get? key = c.costs.get? key
  outcome : Entered c p gone r ∨ Refused c p gone r

section Clears

variable {draw : Drawing σ} {incoming : Nat} {cost : Int} {c r : Cache β σ} {gone : List String}
  {accepted : Bool}

theorem Clears.members (h : Clears draw incoming cost c gone accepted r) (hfair : draw.Fair)
    (hb : Balanced c) : gone.Nodup ∧ gone ⊆ c.costs.names := by
  induction h with
  | enough _ => simp
  | refused _ _ _ => simp
  | @evicted c r victim gone accepted _ hleast _ _ ih =>
    have hevict := cleared_evict hb draw victim
    obtain ⟨hnodup, hsubset⟩ := ih hevict.balanced
    rw [hevict.names] at hsubset
    have hvictim := (hfair.drawn hb).subset hleast.mem
    refine ⟨List.nodup_cons.mpr ⟨fun hagain => ?_, hnodup⟩, List.cons_subset.mpr ⟨hvictim, ?_⟩⟩
    · simpa using hsubset hagain
    · exact fun key hkey => (List.mem_filter.mp (hsubset hkey)).1

theorem Clears.chosen (h : Clears draw incoming cost c gone accepted r) (hfair : draw.Fair)
    (hb : Balanced c) : ∀ before key after, gone = before ++ key :: after →
      ∃ keys, IsSample (c.costs.names.filter (· ∉ before)) keys ∧ Least c keys key ∧
        c.frequency key ≤ incoming := by
  induction h with
  | enough _ => simp
  | refused _ _ _ => simp
  | @evicted c r victim gone accepted _ hleast hle _ ih =>
    have hevict := cleared_evict hb draw victim
    intro before key after hsplit
    cases before with
    | nil =>
      obtain ⟨rfl, -⟩ := List.cons.inj hsplit
      refine ⟨c.drawn draw, ?_, hleast, hle⟩
      simpa using hfair.drawn hb
    | cons first before =>
      obtain ⟨rfl, hrest⟩ := List.cons.inj hsplit
      obtain ⟨keys, hsample, hkey, hbelow⟩ := ih hevict.balanced before key after hrest
      rw [hevict.names, filter_not_mem_append] at hsample
      exact ⟨keys, hsample, hevict.least hkey, hevict.frequency_eq ▸ hbelow⟩

theorem Clears.outdone (h : Clears draw incoming cost c gone false r) (hfair : draw.Fair)
    (hb : Balanced c) : ∃ keys, IsSample (c.costs.names.filter (· ∉ gone)) keys ∧ keys ≠ [] ∧
      ∀ key ∈ keys, incoming < c.frequency key := by
  generalize hrefused : false = accepted at h
  induction h with
  | enough _ => exact Bool.noConfusion hrefused
  | @refused c victim _ hleast hless =>
    refine ⟨c.drawn draw, ?_, List.ne_nil_of_mem hleast.mem, ?_⟩
    · simpa using hfair.drawn hb
    · exact fun key hkey => Nat.lt_of_lt_of_le hless (hleast.least key hkey)
  | @evicted c r victim gone accepted _ _ _ _ ih =>
    have hevict := cleared_evict hb draw victim
    obtain ⟨keys, hsample, hsome, habove⟩ := ih hevict.balanced hrefused
    rw [hevict.names, filter_not_mem_append] at hsample
    exact ⟨keys, hsample, hsome, hevict.frequency_eq ▸ habove⟩

theorem Clears.metrics_eq (h : Clears draw incoming cost c gone accepted r) :
    r.metrics =
      { c.metrics with
        setsRejected := c.metrics.setsRejected + if accepted then 0 else 1
        keysEvicted := c.metrics.keysEvicted + gone.length } := by
  induction h with
  | enough _ => rfl
  | refused _ _ _ => rfl
  | @evicted c r victim gone accepted _ _ _ _ ih =>
    rw [ih]
    simp only [evict, metrics_remove, moved, List.length_cons]
    congr 1
    omega

theorem Clears.idle (h : Clears draw incoming cost c gone accepted r)
    (hfits : c.usedCost + cost ≤ c.sizes.maxCost) : gone = [] := by
  cases h with
  | enough _ => rfl
  | refused _ _ _ => rfl
  | evicted hover _ _ _ => exact absurd hover (Int.not_lt.mpr hfits)

end Clears

section Decides

variable {draw : Drawing σ} {c r : Cache β σ} {p : PendingSet β} {gone : List String}

theorem exists_decides (hfair : draw.Fair) (hb : Balanced c) (p : PendingSet β) :
    ∃ gone r, Decides draw c p gone r := by
  obtain ⟨gone, accepted, r, hclears⟩ := exists_clears hfair hb (c.sketch.estimate p.hash) p.cost
  cases accepted with
  | true => exact ⟨gone, r.enter p, .entered hclears⟩
  | false => exact ⟨gone, r, .refused hclears⟩

theorem get?_costs_enter (c : Cache β σ) (p : PendingSet β) (key : String) :
    (c.enter p).costs.get? key = if p.key = key then some p.cost else c.costs.get? key :=
  Table.get?_put c.costs p.key key p.cost

theorem resident_enter (c : Cache β σ) (p : PendingSet β) (key : String) :
    (c.enter p).resident key = (decide (p.key = key) || c.resident key) :=
  Table.has_put c.costs p.key key p.cost

theorem Clears.displaces {accepted : Bool}
    (h : Clears draw (c.sketch.estimate p.hash) p.cost c gone accepted r) (hfair : draw.Fair)
    (hb : Balanced c) (hnew : c.resident p.key = false) {last : Cache β σ}
    (hresident : ∀ key, key ≠ p.key → last.resident key = r.resident key)
    (hothers : ∀ key, key ≠ p.key →
      last.lookup key = r.lookup key ∧ last.costs.get? key = r.costs.get? key)
    (houtcome : Entered c p gone last ∨ Refused c p gone last) : Displaces c p gone last := by
  obtain ⟨hnodup, hsubset⟩ := h.members hfair hb
  have hcleared := h.cleared hb
  have hchosen := h.chosen hfair hb
  have hne : ∀ key, c.resident key = true → key ≠ p.key := by
    rintro key hres rfl
    rw [hnew] at hres
    exact Bool.noConfusion hres
  have hleft : ∀ key, key ∈ gone ↔ c.resident key = true ∧ last.resident key = false := by
    intro key
    constructor
    · intro hkey
      have hres := (resident_iff_mem_names c key).mpr (hsubset hkey)
      rw [hresident key (hne key hres), hcleared.resident]
      simpa [hkey] using hres
    · rintro ⟨hres, hgone⟩
      rw [hresident key (hne key hres), hcleared.resident, hres] at hgone
      simpa using hgone
  exact
    { few := by
        have hlength := (hnodup.subperm hsubset).length_le
        rwa [Table.names, List.length_map] at hlength
      nodup := hnodup
      idle := h.idle
      chosen := hchosen
      left := hleft
      spared := by
        intro key hres habove
        rw [← Bool.not_eq_false]
        intro hgone
        obtain ⟨before, after, hsplit⟩ := List.append_of_mem ((hleft key).mpr ⟨hres, hgone⟩)
        obtain ⟨-, -, -, hbelow⟩ := hchosen before key after hsplit
        omega
      others := by
        intro key hkey hother
        obtain ⟨hvalue, hcost⟩ := hothers key hother
        rw [hvalue, hcost, hcleared.value, hcleared.cost, if_neg hkey, if_neg hkey]
        exact ⟨rfl, rfl⟩
      outcome := houtcome }

theorem Decides.displaces (h : Decides draw c p gone r) (hfair : draw.Fair) (hb : Balanced c)
    (hhash : p.hash = keyHash p.key) (hcost : p.cost ≤ c.sizes.maxCost)
    (hnew : c.resident p.key = false) : Displaces c p gone r := by
  cases h with
  | @entered r hclears =>
    refine hclears.displaces hfair hb hnew ?_ ?_ (.inl ?_)
    · intro key hkey
      simp [resident_enter, hkey.symm]
    · intro key hkey
      simp [lookup_enter hhash, get?_costs_enter, hkey.symm]
    · refine ⟨by simp [lookup_enter hhash], by simp [get?_costs_enter], hclears.fits hb hcost, ?_⟩
      change { r.metrics with keysAdded := r.metrics.keysAdded + 1 } = _
      rw [hclears.metrics_eq]
      rfl
  | refused hclears =>
    have hcleared := hclears.cleared hb
    refine hclears.displaces hfair hb hnew (fun _ _ => rfl) (fun _ _ => ⟨rfl, rfl⟩) (.inr ?_)
    have habsent : r.resident p.key = false := by simp [hcleared.resident, hnew]
    exact
      { absent := ⟨habsent, hcleared.balanced.lookup_eq_none habsent⟩
        metrics := hclears.metrics_eq
        outdone := hclears.outdone hfair hb }

end Decides

variable [RandomSource σ] {c : Cache β σ}

/-- The caches in which a run may decide on a value: between two operations, and while what waits
is taken in. -/
inductive Reached (c : Cache β σ) : Cache β σ → Prop
  | between (ops : List (Operation β)) : Reached c (c.run ops)
  | amid (ops : List (Operation β)) (taken : List (PendingSet β))
      (htaken : ∀ p ∈ taken, Admissible (c.run ops).sizes p) :
    Reached c (taken.foldl settle (c.run ops).ready)

section Reached

variable {m : Cache β σ × PendingSet β} {ops : List (Operation β)}

theorem Reached.balanced {c' : Cache β σ} (h : Reached c c') (hc : Sound c) : Balanced c' := by
  cases h with
  | between ops => exact (hc.run ops).toBalanced
  | amid ops taken htaken => exact (hc.run ops).toBalanced.ready.settleAll htaken

theorem Reached.sizes_eq {c' : Cache β σ} (h : Reached c c') (hc : Sound c) :
    c'.sizes = c.sizes := by
  cases h with
  | between ops => exact sizes_run hc ops
  | amid ops taken htaken => exact (settleAll_frame _ taken).1.trans (sizes_run hc ops)

theorem eq_foldl_of_mem_meetings {ps : List (PendingSet β)} (h : m ∈ meetings c ps) :
    ∃ before after, ps = before ++ m.2 :: after ∧ m.1 = before.foldl settle c := by
  induction ps generalizing c with
  | nil => simp [meetings] at h
  | cons p ps ih =>
    rcases List.mem_cons.mp h with rfl | h
    · exact ⟨[], ps, rfl, rfl⟩
    · obtain ⟨before, after, hps, hm⟩ := ih h
      exact ⟨p :: before, after, by rw [hps]; rfl, hm⟩

theorem reached_meetings {ps : List (PendingSet β)}
    (hps : ∀ p ∈ ps, Admissible (c.run ops).sizes p) (h : m ∈ meetings (c.run ops).ready ps) :
    Reached c m.1 ∧ Admissible m.1.sizes m.2 := by
  obtain ⟨before, after, rfl, hm⟩ := eq_foldl_of_mem_meetings h
  rw [hm, (settleAll_frame _ before).1]
  constructor
  · exact .amid ops before fun p hp => hps p (List.mem_append_left _ hp)
  · exact hps m.2 (List.mem_append_right before List.mem_cons_self)

theorem reached_setMeetings (hc : Sound c) {key : String} {value : Option (Stored β)} {cost : Int}
    (h : m ∈ (c.run ops).setMeetings key value cost) :
    Reached c m.1 ∧ Admissible m.1.sizes m.2 := by
  have hsound := hc.run ops
  unfold setMeetings at h
  cases value with
  | none => simp at h
  | some v =>
    dsimp only at h
    split at h
    · simp at h
    · rename_i hopen
      have hoffer := admissible_offered (Int.not_lt.mp (not_or.mp hopen).2) key v
      split at h
      · rw [List.mem_singleton.mp h]
        exact ⟨.between ops, hoffer⟩
      · split at h
        · exact reached_meetings (hsound.admissible_hold hoffer) h
        · simp at h

theorem reached_stepMeetings (hc : Sound c) {op : Operation β}
    (h : m ∈ (c.run ops).stepMeetings op) : Reached c m.1 ∧ Admissible m.1.sizes m.2 := by
  cases op with
  | set key value cost => exact reached_setMeetings hc h
  | wait => exact reached_meetings (hc.run ops).admissible h
  | get _ _ | delete _ | clear | close => exact absurd h List.not_mem_nil
  | compute key now limit answer cost =>
    have hasked : c.run (ops ++ [.get key false]) = ((c.run ops).get key false).2 :=
      run_append_singleton c ops _
    unfold stepMeetings at h
    dsimp only at h
    rw [live?_eq, ← hasked] at h
    split at h
    · rename_i payload time hlive
      obtain ⟨-, rfl⟩ := Prod.mk.inj hlive
      rcases List.mem_append.mp h with h | h
      · exact reached_setMeetings hc h
      · have hset := run_append_singleton c (ops ++ [.get key false])
          (.set key (some (.entry payload time)) cost)
        change m ∈ (((c.run (ops ++ [.get key false])).step
          (.set key (some (.entry payload time)) cost)).waitMeetings) at h
        rw [← hset] at h
        exact reached_meetings (hc.run _).admissible h
    · simp at h

end Reached

/-- Whatever operations were run, a decision on a new key within the budget comes to an end and
displaces only what it should, however fair samples are drawn. The decisions of the cache itself
are of this kind, with its own samples, and are made in caches that are reached. -/
theorem decides_run {config : CacheConfig} {random : σ} (hmake : make config random = .ok c) :
    (∀ ops op m, m ∈ (c.run ops).stepMeetings op → Reached c m.1 ∧ Admissible m.1.sizes m.2) ∧
    (Drawing.own : Drawing σ).Fair ∧
    ∀ (c' : Cache β σ) (p : PendingSet β), Reached c c' → c'.resident p.key = false →
      c'.sizes.maxCost = config.maxCost ∧ (∃ gone, Decides .own c' p gone (c'.settle p)) ∧
      ∀ draw : Drawing σ, draw.Fair → (∃ gone r, Decides draw c' p gone r) ∧
        (p.hash = keyHash p.key → p.cost ≤ config.maxCost →
          ∀ gone r, Decides draw c' p gone r → Displaces c' p gone r) := by
  have hsound := sound_of_make hmake
  refine ⟨fun ops op m hm => reached_stepMeetings hsound hm, fair_own, ?_⟩
  intro c' p hreached hnew
  have hb := hreached.balanced hsound
  have hmax : c'.sizes.maxCost = config.maxCost := by
    obtain ⟨sizes, sketch, random', hmax, hempty⟩ := eq_ofSketch_of_make hmake
    rw [hreached.sizes_eq hsound, hempty]
    exact hmax
  refine ⟨hmax, decides_settle hb hnew, fun draw hfair => ⟨exists_decides hfair hb p, ?_⟩⟩
  intro hhash hcost gone r h
  exact h.displaces hfair hb hhash (hmax ▸ hcost) hnew

/-- One resident is requested, and a new value of the other overdraws the budget. -/
def favoured : List (Operation String) :=
  [.set "a" (some (.plain "x")) 4, .set "b" (some (.plain "y")) 4, .get "a" false,
    .set "b" (some (.plain "z")) 9]

theorem decides_favoured : ∃ c : Cache String Congruential, make ⟨16, 10, 1⟩ ⟨1, []⟩ = .ok c ∧
    (c.run favoured).usedCost = 13 ∧
    ((c.run favoured).settle (offered "c" (.plain "w") 5)).residents = [("a", 4), ("c", 5)] ∧
    ∃ gone, Displaces (c.run favoured) (offered "c" (.plain "w") 5) gone
      ((c.run favoured).settle (offered "c" (.plain "w") 5)) := by
  refine ⟨_, rfl, by decide +kernel, by decide +kernel, ?_⟩
  obtain ⟨-, hfair, hdecisions⟩ := @decides_run String Congruential _ _ ⟨16, 10, 1⟩ ⟨1, []⟩ rfl
  obtain ⟨-, ⟨gone, hsettled⟩, hlaws⟩ :=
    hdecisions _ (offered "c" (.plain "w") 5) (.between favoured) (by decide +kernel)
  exact ⟨gone, (hlaws _ hfair).2 rfl (by decide) gone _ hsettled⟩

end Census.Cache
