import Census.Proofs.Cache.LastWrite
import Census.Proofs.Cache.Representation

/-! Answers computed on demand, while others use the cache. A kept answer is served as long as it is
young and its key is left alone, and computed anew afterwards; a computation that fails leaves no
trace beyond the request that it began with. -/
namespace Census.Cache

variable {β ε σ : Type}

/-- A computation of an answer: what others do to the cache while it runs, and how it ends, with an
answer at a time or with a failure. -/
structure Work (β ε : Type) where
  meanwhile : List (Operation β)
  ending : Except ε (β × Float)

structure Demanded (β ε σ : Type) where
  answer : Except ε β
  computed : Bool
  cache : Cache β σ

/-- Whether an operation may change what a cache holds under a key: by a value that is accepted for
it, or by its removal. -/
def Touches [RandomSource σ] (c : Cache β σ) (key : String) : Operation β → Prop
  | .set other value cost => other = key ∧ (c.set other value cost).1 = true
  | .get _ _ | .wait => False
  | .delete other => other = key
  | .clear | .close => True
  | .compute other now limit answer cost =>
    other = key ∧ (c.live? other now limit).1 = none ∧
      ∃ payload time, answer = some (payload, time) ∧
        ((c.live? other now limit).2.set other (some (.entry payload time)) cost).1 = true

def Spares [RandomSource σ] (c : Cache β σ) (key : String) : List (Operation β) → Prop
  | [] => True
  | op :: ops => ¬ c.Touches key op ∧ (c.step op).Spares key ops

theorem Tracks.get_of_resident {c : Cache β σ} {t : Table (Stored β)} {key : String}
    (ht : Tracks c t) (h : Sound c) (hres : c.resident key = true) (contended : Bool) :
    (c.get key contended).1 = t.get? key := by
  rw [get_fst h, if_pos hres]
  refine (ht key).resolve_left fun hnone => ?_
  have hlookup := h.toBalanced.isSome_lookup key
  unfold newest at hnone
  rw [Option.or_eq_none_iff] at hnone
  rw [hnone.2, hres] at hlookup
  exact Bool.noConfusion hlookup

theorem Sound.not_resident_of_closed {c : Cache β σ} (h : Sound c) (hclosed : c.closed = true)
    (key : String) : c.resident key = false := by
  unfold resident
  rw [(h.shut hclosed).1]
  rfl

variable [RandomSource σ]

/-- A live answer, or one that is computed in its stead. While it is computed the cache is free for
others, and what is kept in the end is kept in the cache that they leave. -/
def demand (c : Cache β σ) (key : String) (now limit : Float) (work : Work β ε) (cost : Int) :
    Demanded β ε σ :=
  match c.live? key now limit with
  | (some payload, c) => ⟨.ok payload, false, c⟩
  | (none, c) =>
    let c := c.run work.meanwhile
    match work.ending with
    | .ok (payload, time) => ⟨.ok payload, true, c.keep key payload time cost⟩
    | .error e => ⟨.error e, true, c⟩

/-- A demand gets an answer of some time from the cache while it is young, and else has one
computed. -/
def Serves (c : Cache β σ) (key : String) (payload : β) (time : Float) : Prop :=
  ∀ (ε : Type) (now limit : Float) (work : Work β ε) (cost : Int),
    (now - time < limit →
      c.demand key now limit work cost = ⟨.ok payload, false, (c.get key false).2⟩) ∧
    (¬ now - time < limit → (c.demand key now limit work cost).computed = true)

section Demand

variable {c : Cache β σ} {key : String} {now limit : Float} {work : Work β ε} {cost : Int}

theorem demand_of_fresh {payload : β} (h : fresh? now limit (c.get key false).1 = some payload) :
    c.demand key now limit work cost = ⟨.ok payload, false, (c.get key false).2⟩ := by
  unfold demand
  rw [live?_eq, h]

theorem demand_of_stale (h : fresh? now limit (c.get key false).1 = none) :
    c.demand key now limit work cost =
      match work.ending with
      | .ok (payload, time) =>
        ⟨.ok payload, true, ((c.get key false).2.run work.meanwhile).keep key payload time cost⟩
      | .error e => ⟨.error e, true, (c.get key false).2.run work.meanwhile⟩ := by
  unfold demand
  rw [live?_eq, h]

theorem computed_demand (c : Cache β σ) (key : String) (now limit : Float) (work : Work β ε)
    (cost : Int) : (c.demand key now limit work cost).computed =
      (fresh? now limit (c.get key false).1).isNone := by
  cases h : fresh? now limit (c.get key false).1 with
  | some payload => rw [demand_of_fresh h]; rfl
  | none =>
    rw [demand_of_stale h]
    split <;> rfl

/-- Without others, a demand is one operation on the cache. -/
theorem compute_eq_demand (c : Cache β σ) (key : String) (now limit : Float)
    (ending : Except ε (β × Float)) (cost : Int) :
    c.compute key now limit ending.toOption cost =
      ((c.demand key now limit ⟨[], ending⟩ cost).answer.toOption,
        (c.demand key now limit ⟨[], ending⟩ cost).cache) := by
  unfold compute demand
  rcases c.live? key now limit with ⟨_ | payload, asked⟩
  · cases ending <;> rfl
  · rfl

end Demand

section Spared

variable {c : Cache β σ} {t : Table (Stored β)} {key : String}

theorem get?_noteSet (t : Table (Stored β)) {other : String} {value : Option (Stored β)}
    {cost : Int} (h : ¬ (other = key ∧ (c.set other value cost).1 = true)) :
    (c.noteSet t other value cost).get? key = t.get? key := by
  cases value with
  | none => rfl
  | some v =>
    unfold noteSet
    dsimp only
    split
    · rename_i haccepted
      rw [Table.get?_put, if_neg fun heq => h ⟨heq, haccepted⟩]
    · rfl

theorem get?_note (t : Table (Stored β)) {op : Operation β} (h : ¬ c.Touches key op) :
    (c.note t op).get? key = t.get? key := by
  cases op with
  | set other value cost => exact get?_noteSet t h
  | get other contended => rfl
  | wait => rfl
  | delete other => exact (Table.get?_remove t other key).trans (if_neg h)
  | clear => exact absurd trivial h
  | close => exact absurd trivial h
  | compute other now limit answer cost =>
    unfold note
    dsimp only
    cases hlive : c.live? other now limit with
    | mk live asked =>
      cases live with
      | some payload => rfl
      | none =>
        cases answer with
        | none => rfl
        | some answer =>
          refine get?_noteSet t fun hset => h ⟨hset.1, by rw [hlive], answer.1, answer.2, rfl, ?_⟩
          rw [hlive]
          exact hset.2

theorem get?_written (t : Table (Stored β)) {ops : List (Operation β)} (h : c.Spares key ops) :
    (c.written t ops).get? key = t.get? key := by
  induction ops generalizing c t with
  | nil => rfl
  | cons op ops ih =>
    obtain ⟨hop, hops⟩ := h
    rw [written, ih (c.note t op) hops, get?_note t hop]

theorem Tracks.serves (ht : Tracks c t) (h : Sound c) (hres : c.resident key = true) {payload : β}
    {time : Float} (hlast : t.get? key = some (.entry payload time)) :
    c.Serves key payload time := by
  have hget := (ht.get_of_resident h hres false).trans hlast
  intro ε now limit work cost
  have hfresh : fresh? now limit (c.get key false).1 =
      if now - time < limit then some payload else none := by
    rw [hget]
    rfl
  constructor
  · intro hyoung
    rw [if_pos hyoung] at hfresh
    exact demand_of_fresh hfresh
  · intro hold
    rw [if_neg hold] at hfresh
    rw [computed_demand, hfresh]
    rfl

theorem accepted_set (hopen : c.closed = false) {value : Stored β} {cost : Int}
    (hcost : cost ≤ c.sizes.maxCost) : (c.set key (some value) cost).1 = true := by
  rcases set_cases c key (some value) cost with ⟨hrefused, -⟩ | ⟨v, -, -, -, hcases⟩
  · rcases hrefused value rfl with hclosed | hover
    · rw [hopen] at hclosed
      exact Bool.noConfusion hclosed
    · omega
  · rcases hcases with ⟨-, hset⟩ | ⟨-, -, hset⟩ | ⟨-, -, hset⟩ <;> rw [hset]

end Spared

theorem run_append (c : Cache β σ) (ops ops' : List (Operation β)) :
    c.run (ops ++ ops') = (c.run ops).run ops' := by
  simp [run]

theorem closed_keep (c : Cache β σ) (key : String) (payload : β) (time : Float) (cost : Int) :
    (c.keep key payload time cost).closed = c.closed := by
  simp [keep, closed_wait, closed_set]

/-- An answer that was kept in an open cache is served for as long as its key is spared and stays
resident. -/
theorem serves_of_keep {c : Cache β σ} {t : Table (Stored β)} (ht : Tracks c t) (h : Sound c)
    {key : String} {payload : β} {time : Float} {cost : Int} (hcost : cost ≤ c.sizes.maxCost)
    {later : List (Operation β)} (hspared : (c.keep key payload time cost).Spares key later)
    (hres : ((c.keep key payload time cost).run later).resident key = true) :
    ((c.keep key payload time cost).run later).Serves key payload time := by
  have hkept := h.keep key payload time cost
  have hopen : c.closed = false := by
    rw [← Bool.not_eq_true]
    intro hclosed
    have hlater : ((c.keep key payload time cost).run later).closed = true :=
      run_keeps (P := fun c => c.closed = true) (fun _ op hc => closed_step op hc)
        ((closed_keep c key payload time cost).trans hclosed) later
    rw [(hkept.run later).not_resident_of_closed hlater] at hres
    exact Bool.noConfusion hres
  have hnoted : c.noteSet t key (some (.entry payload time)) cost =
      t.put key (.entry payload time) := by
    unfold noteSet
    dsimp only
    rw [if_pos (accepted_set hopen hcost)]
  have htracks := (ht.keep h key payload time cost).run hkept later
  refine htracks.serves (hkept.run later) hres ?_
  rw [get?_written _ hspared, hnoted, Table.get?_put, if_pos rfl]

/-- A demand that has its answer computed returns what the computation ends with. A good answer is
served from then on while it is young, for as long as its key is spared and stays resident; after a
failure the cache is as a plain request and the others have left it. A demand that computes nothing
returns the answer last accepted for its key, which is young. -/
theorem demand_run {config : CacheConfig} {random : σ} {c : Cache β σ}
    (hmake : make config random = .ok c) (ops : List (Operation β)) (key : String)
    (now limit : Float) (work : Work β ε) (cost : Int) {first : Demanded β ε σ}
    (hfirst : (c.run ops).demand key now limit work cost = first) :
    (∀ payload time, first.computed = true → work.ending = .ok (payload, time) →
      first.answer = .ok payload ∧
      ∀ later, cost ≤ config.maxCost → first.cache.Spares key later →
        (first.cache.run later).resident key = true →
        (first.cache.run later).Serves key payload time) ∧
    (∀ e, first.computed = true → work.ending = .error e →
      first.answer = .error e ∧
      first.cache = (c.run (ops ++ [.get key false])).run work.meanwhile) ∧
    ((c.run (ops ++ [.get key false])).costs = (c.run ops).costs ∧
      (c.run (ops ++ [.get key false])).shards = (c.run ops).shards ∧
      (c.run (ops ++ [.get key false])).pending = (c.run ops).pending) ∧
    (first.computed = false → ∃ payload time, first.answer = .ok payload ∧
      (c.written [] ops).get? key = some (.entry payload time) ∧ now - time < limit) := by
  have hsound := sound_of_make hmake
  have htracks := tracks_of_make hmake []
  have hasked : c.run (ops ++ [.get key false]) = ((c.run ops).get key false).2 :=
    run_append_singleton c ops (.get key false)
  have hcomputed := computed_demand (c.run ops) key now limit work cost
  rw [hfirst] at hcomputed
  have hstale : first.computed = true → fresh? now limit ((c.run ops).get key false).1 = none := by
    intro hyes
    simpa [hyes] using hcomputed
  refine ⟨?_, ?_, ?_, ?_⟩
  · intro payload time hyes hending
    rw [demand_of_stale (hstale hyes), hending, ← hasked, ← run_append] at hfirst
    subst hfirst
    refine ⟨rfl, fun later hcost hspared hres => ?_⟩
    have hbefore := hsound.run (ops ++ [.get key false] ++ work.meanwhile)
    refine serves_of_keep (htracks.run hsound _) hbefore ?_ hspared hres
    obtain ⟨sizes, sketch, random', hmax, hempty⟩ := eq_ofSketch_of_make hmake
    rw [sizes_run hsound, hempty]
    exact hmax ▸ hcost
  · intro e hyes hending
    rw [demand_of_stale (hstale hyes), hending, ← hasked] at hfirst
    subst hfirst
    exact ⟨rfl, rfl⟩
  · obtain ⟨sketch, reads, metrics, hget⟩ := get_frame (c.run ops) key false
    rw [hasked, hget]
    exact ⟨rfl, rfl, rfl⟩
  · intro hno
    rw [hno] at hcomputed
    cases hfresh : fresh? now limit ((c.run ops).get key false).1 with
    | none =>
      rw [hfresh] at hcomputed
      exact Bool.noConfusion hcomputed
    | some payload =>
      obtain ⟨time, hlast, hyoung⟩ := (htracks.run hsound ops).live? (hsound.run ops) hfresh
      rw [demand_of_fresh hfresh] at hfirst
      subst hfirst
      exact ⟨payload, time, rfl, hlast, hyoung⟩

def overtaken : Work String String :=
  ⟨[.set "a" (some (.plain "old")) 2, .wait], .ok ("new", 1005.0)⟩

def elsewhere : List (Operation String) :=
  [.get "b" true, .set "a" none 1, .set "b" (some (.plain "z")) 5]

theorem demand_overtaken : ∃ c : Cache String Congruential, make ⟨1, 10, 3⟩ ⟨1, []⟩ = .ok c ∧
    ∃ d, ((c.run [.set "b" (some (.plain "y")) 3]).demand "a" 1000.0 300.0 overtaken 4).cache = d ∧
      ((d.run elsewhere).demand "a" 1304.0 300.0 overtaken 4).computed = false ∧
      ((d.run elsewhere).demand "a" 1305.0 300.0 overtaken 4).computed = true := by
  refine ⟨_, rfl, _, rfl, ?_⟩
  have hrun := @demand_run String String Congruential _ ⟨1, 10, 3⟩ ⟨1, []⟩ _ rfl
    [.set "b" (some (.plain "y")) 3] "a" 1000.0 300.0 overtaken 4 _ rfl
  obtain ⟨-, hserves⟩ := hrun.1 "new" 1005.0 (by decide +kernel) rfl
  have hspared := hserves elsewhere (by decide)
    ⟨id, fun h => Bool.noConfusion h.2, fun h => absurd h.1 (by decide), trivial⟩
    (by decide +kernel)
  constructor
  · exact congrArg Demanded.computed ((hspared String 1304.0 300.0 overtaken 4).1 (by decide))
  · exact (hspared String 1305.0 300.0 overtaken 4).2 (by decide)

end Census.Cache
