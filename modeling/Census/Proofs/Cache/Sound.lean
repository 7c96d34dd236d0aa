import Census.Proofs.Cache.Clearing
import Census.Proofs.Cache.Operation

/-! The invariant of a cache in a run. Beside its balance, what waits is admissible and not
resident, the buffer is not full, and nothing is left in a closed cache. -/
namespace Census.Cache

variable {β σ : Type}

structure Sound (c : Cache β σ) : Prop extends Balanced c where
  waiting : ∀ p ∈ c.pending, Admissible c.sizes p ∧ c.resident p.key = false
  short : c.pending.length < c.sizes.bufferItems
  shut : c.closed = true → c.costs = [] ∧ c.pending = []

theorem sound_ofSketch (sizes : CacheSizes) (sketch : Sketch) (random : σ) :
    Sound (ofSketch sizes sketch random : Cache β σ) where
  nodup := List.nodup_nil
  placed := by
    intro i key
    simp [ofSketch, Table.get?, resident, Table.has]
  used := rfl
  charged := by
    intro key cost h
    simp [ofSketch, Table.get?] at h
  waiting := by simp [ofSketch]
  short := sizes.bufferItems_pos
  shut := by simp [ofSketch]

theorem sizes_eq {config : CacheConfig} {sizes : CacheSizes} (h : config.sizes = .ok sizes) :
    sizes.maxCost = config.maxCost ∧ (sizes.bufferItems : Int) = config.bufferItems := by
  unfold CacheConfig.sizes at h
  split at h
  · simp at h
  · split at h
    · simp at h
    · split at h
      · simp at h
      · cases h
        dsimp only
        omega

theorem exists_seeds_of_make [RandomSource σ] {config : CacheConfig} {random : σ}
    {c : Cache β σ} (h : make config random = .ok c) :
    ∃ sizes seeds random', config.sizes = .ok sizes ∧
      c = ofSketch sizes (Sketch.withSeeds sizes.counters seeds) random' := by
  unfold make at h
  cases hsizes : config.sizes with
  | error e => simp [hsizes, bind, Except.bind] at h
  | ok sizes =>
    simp only [hsizes, bind, Except.bind] at h
    split at h
    · simp at h
    · split at h
      · simp [throw, throwThe, MonadExceptOf.throw] at h
      · simp only [pure, Except.pure, Except.ok.injEq] at h
        exact ⟨sizes, _, _, rfl, h.symm⟩

theorem exists_sizes_of_make [RandomSource σ] {config : CacheConfig} {random : σ}
    {c : Cache β σ} (h : make config random = .ok c) :
    ∃ sizes sketch random', config.sizes = .ok sizes ∧ c = ofSketch sizes sketch random' := by
  obtain ⟨sizes, seeds, random', hsizes, hempty⟩ := exists_seeds_of_make h
  exact ⟨sizes, _, random', hsizes, hempty⟩

theorem eq_ofSketch_of_make [RandomSource σ] {config : CacheConfig} {random : σ}
    {c : Cache β σ} (h : make config random = .ok c) :
    ∃ sizes sketch random', sizes.maxCost = config.maxCost ∧
      c = ofSketch sizes sketch random' := by
  obtain ⟨sizes, sketch, random', hsizes, hempty⟩ := exists_sizes_of_make h
  exact ⟨sizes, sketch, random', (sizes_eq hsizes).1, hempty⟩

theorem Sound.admissible {c : Cache β σ} (h : Sound c) : ∀ p ∈ c.pending, Admissible c.sizes p :=
  fun p hp => (h.waiting p hp).1

theorem Sound.congr {c c' : Cache β σ} (h : Sound c) (hsizes : c'.sizes = c.sizes)
    (hshards : c'.shards = c.shards) (hcosts : c'.costs = c.costs)
    (hused : c'.usedCost = c.usedCost) (hpending : c'.pending = c.pending)
    (hclosed : c'.closed = c.closed) : Sound c' where
  toBalanced := h.toBalanced.congr hsizes hshards hcosts hused
  waiting := by
    unfold resident
    rw [hpending, hsizes, hcosts]
    exact h.waiting
  short := by
    rw [hpending, hsizes]
    exact h.short
  shut := by
    rw [hclosed, hcosts, hpending]
    exact h.shut

theorem get_frame (c : Cache β σ) (key : String) (contended : Bool) :
    ∃ sketch reads metrics, (c.get key contended).2 =
      { c with sketch := sketch, reads := reads, metrics := metrics } := by
  unfold get
  split
  · exact ⟨_, _, _, rfl⟩
  · unfold recordAccess
    dsimp only
    split <;> exact ⟨_, _, _, rfl⟩

theorem Sound.get {c : Cache β σ} (h : Sound c) (key : String) (contended : Bool) :
    Sound (c.get key contended).2 := by
  obtain ⟨sketch, reads, metrics, hget⟩ := get_frame c key contended
  rw [hget]
  exact h.congr rfl rfl rfl rfl rfl rfl

def withdraw (c : Cache β σ) (key : String) : Cache β σ :=
  { c with pending := c.pending.filter (·.key != key) }

theorem delete_eq (c : Cache β σ) (key : String) : c.delete key = (c.withdraw key).remove key :=
  rfl

theorem Balanced.withdraw {c : Cache β σ} (h : Balanced c) (key : String) :
    Balanced (c.withdraw key) :=
  h.congr rfl rfl rfl rfl

theorem Sound.withdraw {c : Cache β σ} (h : Sound c) (key : String) : Sound (c.withdraw key) where
  toBalanced := h.toBalanced.withdraw key
  waiting := fun p hp => h.waiting p (List.mem_filter.mp hp).1
  short := Nat.lt_of_le_of_lt (List.length_filter_le _ _) h.short
  shut := by
    intro hclosed
    obtain ⟨hcosts, hpending⟩ := h.shut hclosed
    refine ⟨hcosts, ?_⟩
    unfold Cache.withdraw
    rw [hpending]
    rfl

theorem Sound.remove {c : Cache β σ} (h : Sound c) (key : String) : Sound (c.remove key) where
  toBalanced := h.toBalanced.remove key
  waiting := by
    intro p hp
    rw [pending_remove] at hp
    obtain ⟨hadmissible, hres⟩ := h.waiting p hp
    rw [sizes_remove, resident_remove, hres, Bool.and_false]
    exact ⟨hadmissible, rfl⟩
  short := by
    rw [pending_remove, sizes_remove]
    exact h.short
  shut := by
    intro hclosed
    rw [closed_remove] at hclosed
    obtain ⟨hcosts, hpending⟩ := h.shut hclosed
    rw [costs_remove, pending_remove, hcosts, hpending]
    exact ⟨rfl, rfl⟩

theorem Sound.delete {c : Cache β σ} (h : Sound c) (key : String) : Sound (c.delete key) :=
  (h.withdraw key).remove key

theorem sound_clear (c : Cache β σ) : Sound c.clear where
  toBalanced := (sound_ofSketch c.sizes c.sketch c.random).toBalanced.congr rfl rfl rfl rfl
  waiting := by simp [clear]
  short := c.sizes.bufferItems_pos
  shut := fun _ => ⟨rfl, rfl⟩

theorem sound_close (c : Cache β σ) : Sound c.close where
  toBalanced := (sound_clear c).toBalanced.congr rfl rfl rfl rfl
  waiting := by simp [close, clear]
  short := c.sizes.bufferItems_pos
  shut := fun _ => ⟨rfl, rfl⟩

def offered (key : String) (value : Stored β) (cost : Int) : PendingSet β :=
  ⟨key, keyHash key, value, max cost 1⟩

theorem admissible_offered {sizes : CacheSizes} {cost : Int} (h : cost ≤ sizes.maxCost)
    (key : String) (value : Stored β) : Admissible sizes (offered key value cost) where
  hash_eq := rfl
  one_le := Int.le_max_right cost 1
  le_maxCost := Int.max_le.mpr ⟨h, sizes.maxCost_pos⟩

def hold (c : Cache β σ) (p : PendingSet β) : Cache β σ :=
  { c with pending := c.pending ++ [p] }

theorem Sound.admissible_hold {c : Cache β σ} (h : Sound c) {p : PendingSet β}
    (hp : Admissible c.sizes p) : ∀ q ∈ (c.hold p).pending, Admissible c.sizes q := by
  intro q hq
  rcases List.mem_append.mp hq with hq | hq
  · exact h.admissible q hq
  · rw [List.mem_singleton.mp hq]
    exact hp

def ready (c : Cache β σ) : Cache β σ :=
  { c with pending := [] }.drainReads

theorem Balanced.ready {c : Cache β σ} (h : Balanced c) : Balanced c.ready :=
  h.congr rfl rfl rfl rfl

section Wait

variable [RandomSource σ] {c : Cache β σ}

theorem wait_cases (c : Cache β σ) :
    (c.pending = [] ∧ c.wait = c) ∨ c.wait = c.pending.foldl settle c.ready := by
  unfold wait
  cases h : c.pending with
  | nil => exact .inl ⟨rfl, rfl⟩
  | cons p ps => exact .inr rfl

theorem settleAll_frame (c : Cache β σ) (ps : List (PendingSet β)) :
    (ps.foldl settle c).sizes = c.sizes ∧ (ps.foldl settle c).pending = c.pending ∧
      (ps.foldl settle c).closed = c.closed := by
  induction ps generalizing c with
  | nil => exact ⟨rfl, rfl, rfl⟩
  | cons p ps ih =>
    obtain ⟨hsizes, hpending, hclosed⟩ := settle_frame c p
    rw [← hsizes, ← hpending, ← hclosed]
    exact ih (c.settle p)

theorem closed_wait (c : Cache β σ) : c.wait.closed = c.closed := by
  rcases wait_cases c with ⟨-, hwait⟩ | hwait
  · rw [hwait]
  · rw [hwait, (settleAll_frame c.ready c.pending).2.2]
    rfl

theorem Balanced.settleAll (h : Balanced c) {ps : List (PendingSet β)}
    (hps : ∀ p ∈ ps, Admissible c.sizes p) : Balanced (ps.foldl Cache.settle c) := by
  induction ps generalizing c with
  | nil => exact h
  | cons p ps ih =>
    refine ih (h.settle (hps p List.mem_cons_self)) ?_
    rw [(settle_frame c p).1]
    exact fun q hq => hps q (List.mem_cons_of_mem p hq)

theorem sound_wait (h : Balanced c) (hps : ∀ p ∈ c.pending, Admissible c.sizes p)
    (hshut : c.closed = true → c.costs = [] ∧ c.pending = []) : Sound c.wait := by
  rcases wait_cases c with ⟨hpending, hwait⟩ | hwait
  · rw [hwait]
    refine ⟨h, ?_, ?_, hshut⟩
    · simp [hpending]
    · simpa [hpending] using c.sizes.bufferItems_pos
  · obtain ⟨hsizes, hpending, hclosed⟩ := settleAll_frame c.ready c.pending
    have hempty : c.wait.pending = [] := by
      rw [hwait, hpending]
      rfl
    refine ⟨?_, ?_, ?_, ?_⟩
    · rw [hwait]
      exact h.ready.settleAll hps
    · simp [hempty]
    · simpa [hempty] using c.wait.sizes.bufferItems_pos
    · intro hc
      rw [hwait, hclosed] at hc
      obtain ⟨hcosts, hnone⟩ := hshut hc
      refine ⟨?_, hempty⟩
      rw [hwait, hnone]
      exact hcosts

theorem Sound.wait (h : Sound c) : Sound c.wait :=
  sound_wait h.toBalanced h.admissible h.shut

/-- All that can become of an offer: it is refused, it replaces the value of a resident, or it
waits, alone or until the buffer that it fills is taken in. -/
theorem set_cases (c : Cache β σ) (key : String) (value : Option (Stored β)) (cost : Int) :
    ((∀ v, value = some v → c.closed = true ∨ c.sizes.maxCost < cost) ∧
      ∃ c', c.set key value cost = (false, c') ∧ (c' = c ∨ c' = c.reject)) ∨
    ∃ v, value = some v ∧ c.closed = false ∧ cost ≤ c.sizes.maxCost ∧
      ((c.resident key = true ∧
          c.set key value cost = (true, c.update key (keyHash key) v (max cost 1))) ∨
        (c.resident key = false ∧ c.pending.length + 1 < c.sizes.bufferItems ∧
          c.set key value cost = (true, c.hold (offered key v cost))) ∨
        (c.resident key = false ∧ c.sizes.bufferItems ≤ c.pending.length + 1 ∧
          c.set key value cost = (true, (c.hold (offered key v cost)).wait))) := by
  cases value with
  | none => exact .inl ⟨nofun, c, rfl, .inl rfl⟩
  | some v =>
    cases hclosed : c.closed with
    | true => exact .inl ⟨fun _ _ => .inl rfl, c, by simp [set, hclosed], .inl rfl⟩
    | false =>
      by_cases hcost : c.sizes.maxCost < cost
      · exact .inl ⟨fun _ _ => .inr hcost, c.reject, by simp [set, hclosed, hcost], .inr rfl⟩
      · refine .inr ⟨v, rfl, rfl, Int.not_lt.mp hcost, ?_⟩
        cases hres : c.resident key with
        | true => exact .inl ⟨rfl, by simp [set, hclosed, hcost, hres]⟩
        | false =>
          by_cases hfull : c.sizes.bufferItems ≤ c.pending.length + 1
          · exact .inr (.inr ⟨rfl, hfull, by simp [set, hclosed, hcost, hres, hfull, hold, offered]⟩)
          · exact .inr (.inl ⟨rfl, Nat.lt_of_not_le hfull,
              by simp [set, hclosed, hcost, hres, hfull, hold, offered]⟩)

theorem closed_set (c : Cache β σ) (key : String) (value : Option (Stored β)) (cost : Int) :
    (c.set key value cost).2.closed = c.closed := by
  rcases set_cases c key value cost with ⟨-, c', hset, rfl | rfl⟩ |
    ⟨v, -, -, -, ⟨-, hset⟩ | ⟨-, -, hset⟩ | ⟨-, -, hset⟩⟩
  · simp [hset]
  · simp [hset, reject]
  · simp [hset, update, place]
  · simp [hset, hold]
  · simp [hset, closed_wait, hold]

theorem closed_step (op : Operation β) (h : c.closed = true) : (c.step op).closed = true := by
  have hget : ∀ key contended, (c.get key contended).2.closed = true := by
    intro key contended
    obtain ⟨sketch, reads, metrics, hget⟩ := get_frame c key contended
    simp [hget, h]
  cases op with
  | set key value cost => simp [step, closed_set, h]
  | get key contended => exact hget key contended
  | wait => simp [step, closed_wait, h]
  | delete key => simp [step, delete_eq, withdraw, h]
  | clear => simp [step, clear, h]
  | close => simp [step, close]
  | compute key now limit answer cost =>
    unfold step compute
    dsimp only
    rw [live?_eq]
    cases fresh? now limit (c.get key false).1 with
    | some payload => exact hget key false
    | none =>
      cases answer with
      | none => exact hget key false
      | some answer => simp [keep, closed_wait, closed_set, hget key false]

theorem Sound.set (h : Sound c) (key : String) (value : Option (Stored β)) (cost : Int) :
    Sound (c.set key value cost).2 := by
  rcases set_cases c key value cost with ⟨-, c', hset, rfl | rfl⟩ | ⟨v, -, hopen, hcost, hcases⟩
  · rw [hset]
    exact h
  · rw [hset]
    exact h.congr rfl rfl rfl rfl rfl rfl
  · have hoffer := admissible_offered hcost key v
    have hheld := h.admissible_hold hoffer
    have hshut : ∀ c' : Cache β σ, c'.closed = c.closed → c'.closed = true →
        c'.costs = [] ∧ c'.pending = [] := by
      intro c' hsame hclosed
      rw [hsame, hopen] at hclosed
      exact Bool.noConfusion hclosed
    rcases hcases with ⟨hres, hset⟩ | ⟨hres, hroom, hset⟩ | ⟨-, -, hset⟩
    · rw [hset]
      have hbalanced : Balanced (c.update key (keyHash key) v (max cost 1)) :=
        h.toBalanced.put ⟨hoffer.one_le, hoffer.le_maxCost⟩ rfl rfl rfl rfl
      refine ⟨hbalanced, ?_, h.short, hshut _ rfl⟩
      intro p hp
      obtain ⟨hadmissible, hpres⟩ := h.waiting p hp
      refine ⟨hadmissible, ?_⟩
      have hne : key ≠ p.key := by
        intro heq
        rw [heq, hpres] at hres
        exact Bool.noConfusion hres
      have hput := Table.has_put c.costs key p.key (max cost 1)
      rw [decide_eq_false hne, Bool.false_or] at hput
      exact hput.trans hpres
    · rw [hset]
      refine ⟨h.toBalanced.congr rfl rfl rfl rfl, ?_, ?_, hshut _ rfl⟩
      · intro p hp
        refine ⟨hheld p hp, ?_⟩
        rcases List.mem_append.mp hp with hp | hp
        · exact (h.waiting p hp).2
        · rw [List.mem_singleton.mp hp]
          exact hres
      · simpa [hold] using hroom
    · rw [hset]
      exact sound_wait (h.toBalanced.congr rfl rfl rfl rfl) hheld (hshut _ rfl)

theorem Sound.keep (h : Sound c) (key : String) (payload : β) (time : Float) (cost : Int) :
    Sound (c.keep key payload time cost) :=
  (h.set key (some (.entry payload time)) cost).wait

theorem sound_of_make {config : CacheConfig} {random : σ} (h : make config random = .ok c) :
    Sound c := by
  obtain ⟨sizes, sketch, random', -, hempty⟩ := eq_ofSketch_of_make h
  rw [hempty]
  exact sound_ofSketch sizes sketch random'

theorem Sound.step (h : Sound c) (op : Operation β) : Sound (c.step op) := by
  cases op with
  | set key value cost => exact h.set key value cost
  | get key contended => exact h.get key contended
  | wait => exact h.wait
  | delete key => exact h.delete key
  | clear => exact sound_clear c
  | close => exact sound_close c
  | compute key now limit answer cost =>
    have hasked : Sound (c.get key false).2 := h.get key false
    unfold Cache.step compute
    dsimp only
    rw [live?_eq]
    cases fresh? now limit (c.get key false).1 with
    | some payload => exact hasked
    | none =>
      cases answer with
      | none => exact hasked
      | some answer => exact hasked.keep key answer.1 answer.2 cost

theorem Sound.run (h : Sound c) (ops : List (Operation β)) : Sound (c.run ops) :=
  run_keeps (fun _ op hc => hc.step op) h ops

end Wait

end Census.Cache
