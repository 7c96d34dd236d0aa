import Census.Proofs.Cache.Recast

/-! A cleared cache and a new one. A clearing leaves nothing of what a cache has met except the counts
and the state of its source: from then on it goes the way of a new cache with the same seeds. -/
namespace Census

namespace Sketch

def seeds (k : Sketch) : Vector UInt64 4 :=
  k.rows.map (·.seed)

theorem seeds_withSeeds (counters : Nat) (words : Vector UInt64 4) :
    (withSeeds counters words).seeds = words := by
  simp [seeds, withSeeds, Function.comp_def]

theorem seeds_clear (k : Sketch) : k.clear.seeds = k.seeds := by
  simp [seeds, clear, SketchRow.clear, Function.comp_def]

theorem clear_withSeeds (counters : Nat) (words : Vector UInt64 4) :
    (withSeeds counters words).clear = withSeeds counters words := by
  simp [clear, withSeeds, SketchRow.clear, Function.comp_def]

theorem clear_of_cells (k : Sketch) (count : SketchRow k.width → SketchRow k.width)
    (hcount : ∀ r, (count r).clear = r.clear) (additions : Nat) :
    clear { k with rows := k.rows.map count, additions := additions } = k.clear := by
  have hrows : (k.rows.map count).map SketchRow.clear = k.rows.map SketchRow.clear := by
    rw [Vector.map_map]
    exact Vector.map_congr_left fun r _ => hcount r
  unfold clear
  rw [hrows]

theorem clear_clear (k : Sketch) : k.clear.clear = k.clear :=
  k.clear_of_cells SketchRow.clear (fun _ => rfl) 0

theorem clear_reset (k : Sketch) : k.reset.clear = k.clear :=
  k.clear_of_cells SketchRow.halve (fun _ => rfl) 0

theorem clear_increment (k : Sketch) (hash : UInt64) : (k.increment hash).clear = k.clear := by
  have hcounted := k.clear_of_cells (fun r => r.increment k.width_pos hash) (fun _ => rfl)
    (k.additions + 1)
  unfold increment
  dsimp only
  split
  · rw [clear_reset, hcounted]
  · exact hcounted

theorem clear_increments (k : Sketch) (hashes : List UInt64) :
    (hashes.foldl increment k).clear = k.clear := by
  induction hashes generalizing k with
  | nil => rfl
  | cons hash hashes ih => rw [List.foldl_cons, ih, clear_increment]

end Sketch

namespace Cache

variable {β σ : Type}

section Kin

/-- Caches that one clearing makes alike: of the same sizes, with sketches that differ at most in what
they have counted. -/
def Kin (c c' : Cache β σ) : Prop :=
  c'.sizes = c.sizes ∧ c'.sketch.clear = c.sketch.clear

variable {c c' c'' : Cache β σ}

theorem Kin.trans (h : Kin c c') (h' : Kin c' c'') : Kin c c'' :=
  ⟨h'.1.trans h.1, h'.2.trans h.2⟩

theorem kin_drainReads (c : Cache β σ) : Kin c c.drainReads :=
  ⟨rfl, c.sketch.clear_increments c.reads⟩

theorem kin_get (c : Cache β σ) (key : String) (contended : Bool) :
    Kin c (c.get key contended).2 := by
  unfold get
  split
  · exact ⟨rfl, rfl⟩
  · unfold recordAccess
    dsimp only
    split
    · exact ⟨rfl, rfl⟩
    · exact ⟨rfl, c.sketch.clear_increments _⟩

theorem kin_remove (c : Cache β σ) (key : String) : Kin c (c.remove key) := by
  unfold remove
  split <;> exact ⟨rfl, rfl⟩

theorem kin_clear (c : Cache β σ) : Kin c c.clear :=
  ⟨rfl, c.sketch.clear_clear⟩

variable [RandomSource σ]

theorem kin_settle (c : Cache β σ) (p : PendingSet β) : Kin c (c.settle p) := by
  have hroom : ∀ incoming cost fuel, Kin c (makeRoom incoming cost fuel c).2 := by
    intro incoming cost fuel
    refine makeRoom_keeps (P := Kin c) ?_ ?_ ?_ incoming cost fuel ⟨rfl, rfl⟩
    · exact fun _ _ h => h
    · exact fun c' key h => h.trans (kin_remove c' key)
    · exact fun _ h => h
  unfold settle
  split
  · exact ⟨rfl, rfl⟩
  · have hdecided := hroom (c.sketch.estimate p.hash) p.cost c.costs.length
    unfold consider
    generalize makeRoom (c.sketch.estimate p.hash) p.cost c.costs.length c = decided at hdecided
    rcases decided with ⟨_ | _, r⟩
    · exact hdecided
    · exact hdecided

theorem kin_wait (c : Cache β σ) : Kin c c.wait := by
  have hsettled : ∀ (ps : List (PendingSet β)) (c : Cache β σ), Kin c (ps.foldl settle c) := by
    intro ps
    induction ps with
    | nil => exact fun c => ⟨rfl, rfl⟩
    | cons p ps ih => exact fun c => (kin_settle c p).trans (ih (c.settle p))
  rcases wait_cases c with ⟨-, hwait⟩ | hwait
  · rw [hwait]
    exact ⟨rfl, rfl⟩
  · rw [hwait]
    have hready : Kin c c.ready := kin_drainReads { c with pending := [] }
    exact hready.trans (hsettled c.pending c.ready)

theorem kin_set (c : Cache β σ) (key : String) (value : Option (Stored β)) (cost : Int) :
    Kin c (c.set key value cost).2 := by
  rcases set_cases c key value cost with ⟨-, c', hset, rfl | rfl⟩ |
    ⟨v, -, -, -, ⟨-, hset⟩ | ⟨-, -, hset⟩ | ⟨-, -, hset⟩⟩
  · rw [hset]
    exact ⟨rfl, rfl⟩
  · rw [hset]
    exact ⟨rfl, rfl⟩
  · rw [hset]
    exact ⟨rfl, rfl⟩
  · rw [hset]
    exact ⟨rfl, rfl⟩
  · rw [hset]
    exact kin_wait (c.hold (offered key v cost))

theorem kin_step (c : Cache β σ) (op : Operation β) : Kin c (c.step op) := by
  cases op with
  | set key value cost => exact kin_set c key value cost
  | get key contended => exact kin_get c key contended
  | wait => exact kin_wait c
  | delete key => exact kin_remove (c.withdraw key) key
  | clear => exact kin_clear c
  | close => exact kin_clear c
  | compute key now limit answer cost =>
    have hasked := kin_get c key false
    unfold step compute
    dsimp only
    rw [live?_eq]
    cases fresh? now limit (c.get key false).1 with
    | some payload => exact hasked
    | none =>
      cases answer with
      | none => exact hasked
      | some answer =>
        exact (hasked.trans (kin_set _ key (some (.entry answer.1 answer.2)) cost)).trans
          (kin_wait _)

theorem kin_run (c : Cache β σ) (ops : List (Operation β)) : Kin c (c.run ops) :=
  run_keeps (P := Kin c) (fun c' op h => h.trans (kin_step c' op)) ⟨rfl, rfl⟩ ops

end Kin

section Renewal

variable [RandomSource σ] {config : CacheConfig} {random random' : σ} {c c' fresh : Cache β σ}

/-- A clearing leaves a new cache, but for the counts. -/
theorem clear_eq_recast (hmake : make config random = .ok c) (hkin : Kin c c')
    (hopen : c'.closed = false) (hfresh : make config random' = .ok fresh)
    (hseeds : fresh.sketch.seeds = c'.sketch.seeds) (hrandom : fresh.random = c'.random) :
    c'.clear = fresh.recast id c'.metrics := by
  obtain ⟨sizes, words, _, hsizes, rfl⟩ := exists_seeds_of_make hmake
  obtain ⟨_, words', _, hsizes', rfl⟩ := exists_seeds_of_make hfresh
  obtain rfl := Except.ok.inj (hsizes.symm.trans hsizes')
  obtain ⟨hsame, hsketch⟩ := hkin
  have hclear : c'.sketch.clear = Sketch.withSeeds sizes.counters words :=
    hsketch.trans (Sketch.clear_withSeeds sizes.counters words)
  have hwords : words' = words := by
    have hkept := c'.sketch.seeds_clear
    rw [hclear, Sketch.seeds_withSeeds] at hkept
    exact (Sketch.seeds_withSeeds sizes.counters words').symm.trans (hseeds.trans hkept.symm)
  subst hwords
  rw [recast_id]
  unfold clear ofSketch
  rw [hclear, hsame, hopen, ← hrandom, CacheMetrics.add_zero]
  rfl

/-- Whatever a cache that is still open has met, once it is cleared nothing tells it from a new one
with its seeds and the same source: its callers get the same, the same keys stay at the same costs,
the sketch says the same of every key, and the counters gain the same. -/
theorem outcomes_clear (hmake : make config random = .ok c) (ops : List (Operation β))
    (hopen : (c.run ops).closed = false) (hfresh : make config random' = .ok fresh)
    (hseeds : fresh.sketch.seeds = (c.run ops).sketch.seeds)
    (hrandom : fresh.random = (c.run ops).random) (later : List (Operation β)) :
    let cleared := (c.run ops).clear
    cleared.outcomes later = fresh.outcomes later ∧
      (cleared.run later).residents = (fresh.run later).residents ∧
      (∀ hash, (cleared.run later).sketch.estimate hash =
        (fresh.run later).sketch.estimate hash) ∧
      (cleared.run later).usedCost = (fresh.run later).usedCost ∧
      ∃ gain, (cleared.run later).metrics = cleared.metrics + gain ∧
        (fresh.run later).metrics = fresh.metrics + gain := by
  intro cleared
  have hcleared : cleared = fresh.recast id (c.run ops).metrics :=
    clear_eq_recast hmake (kin_run c ops) hopen hfresh hseeds hrandom
  obtain ⟨hrun, houtcomes⟩ := recast_run id (c.run ops).metrics fresh later
  rw [Operation.recast_id, List.map_id, ← hcleared] at hrun houtcomes
  rw [Outcome.recast_id, List.map_id] at houtcomes
  have hnew : fresh.metrics = {} := by
    obtain ⟨_, _, _, -, rfl⟩ := exists_seeds_of_make hfresh
    rfl
  rw [hrun]
  refine ⟨houtcomes, rfl, fun _ => rfl, rfl, (fresh.run later).metrics, rfl, ?_⟩
  rw [hnew, CacheMetrics.zero_add]

def wornOut : List (Operation String) :=
  [.set "a" (some (.plain "x")) 6, .get "a" false, .set "b" (some (.plain "y")) 6, .wait,
    .get "b" true, .get "c" false, .set "d" (some (.plain "z")) 1]

def afterwards : List (Operation String) :=
  [.set "b" (some (.plain "v")) 7, .set "d" (some (.plain "w")) 4, .get "b" false, .wait,
    .get "d" false]

theorem outcomes_wornOut : ∃ c fresh : Cache String Congruential,
    make ⟨2, 10, 2⟩ ⟨1, [3, 5, 7, 9]⟩ = .ok c ∧
      make ⟨2, 10, 2⟩ ⟨(c.run wornOut).random.state, [3, 5, 7, 9]⟩ = .ok fresh ∧
      (c.run wornOut).random ≠ c.random ∧
      (c.run wornOut).clear.outcomes afterwards = fresh.outcomes afterwards := by
  obtain ⟨c, fresh, hmake, hfresh, hmoved, hopen, hseeds, hrandom⟩ :
      ∃ c fresh : Cache String Congruential,
        make ⟨2, 10, 2⟩ ⟨1, [3, 5, 7, 9]⟩ = .ok c ∧
        make ⟨2, 10, 2⟩ ⟨(c.run wornOut).random.state, [3, 5, 7, 9]⟩ = .ok fresh ∧
        (c.run wornOut).random ≠ c.random ∧ (c.run wornOut).closed = false ∧
        fresh.sketch.seeds = (c.run wornOut).sketch.seeds ∧
        fresh.random = (c.run wornOut).random := by
    refine ⟨_, _, rfl, rfl, ?_⟩
    decide +kernel
  exact ⟨c, fresh, hmake, hfresh, hmoved,
    (outcomes_clear hmake wornOut hopen hfresh hseeds hrandom afterwards).1⟩

end Renewal

end Cache

end Census
