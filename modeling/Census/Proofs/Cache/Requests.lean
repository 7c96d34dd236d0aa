import Census.Proofs.Cache.Eviction
import Census.Proofs.Cache.Renewal
import Mathlib.Logic.Relation

/-! What becomes of the requests that a cache collects. Each reaches the sketch once and in its
turn, unless it is the oldest of as many as may wait when one more comes. A new key is decided on
when all that wait have reached the sketch. -/
namespace Census.Cache

variable {β σ : Type}

/-- The requests since the last clearing, by the hashes of their keys and in their order: all of
them, those that the sketch has counted, and those that wait. -/
structure Ledger where
  asked : List UInt64
  fed : List UInt64
  waiting : List UInt64

namespace Ledger

def blank : Ledger := ⟨[], [], []⟩

/-- What may happen to requests, where no more than `limit` may wait. -/
inductive Moves (limit : Nat) : Ledger → Ledger → Prop
  | collect {asked fed waiting : List UInt64} (hash : UInt64) (hroom : waiting.length < limit) :
    Moves limit ⟨asked, fed, waiting⟩ ⟨asked ++ [hash], fed, waiting ++ [hash]⟩
  | displace {asked fed waiting : List UInt64} (hash oldest : UInt64)
      (hfull : (oldest :: waiting).length = limit) :
    Moves limit ⟨asked, fed, oldest :: waiting⟩ ⟨asked ++ [hash], fed, waiting ++ [hash]⟩
  | feed {asked fed waiting : List UInt64} (oldest : UInt64) :
    Moves limit ⟨asked, fed, oldest :: waiting⟩ ⟨asked, fed ++ [oldest], waiting⟩

abbrev Reaches (limit : Nat) : Ledger → Ledger → Prop :=
  Relation.ReflTransGen (Moves limit)

variable {limit : Nat} {l l' : Ledger}

theorem Moves.sublist (h : Moves limit l l') (hl : (l.fed ++ l.waiting).Sublist l.asked) :
    (l'.fed ++ l'.waiting).Sublist l'.asked := by
  cases h with
  | @collect asked fed waiting hash _ =>
    simpa using hl.append (List.Sublist.refl [hash])
  | @displace asked fed waiting hash oldest _ =>
    have hrest : (fed ++ waiting).Sublist asked := by
      refine List.Sublist.trans ?_ hl
      exact (List.Sublist.refl fed).append (List.sublist_cons_self oldest waiting)
    simpa using hrest.append (List.Sublist.refl [hash])
  | feed oldest => simpa using hl

theorem Reaches.sublist (h : Reaches limit l l') (hl : (l.fed ++ l.waiting).Sublist l.asked) :
    (l'.fed ++ l'.waiting).Sublist l'.asked := by
  induction h with
  | refl => exact hl
  | tail _ hmove ih => exact hmove.sublist ih

theorem reaches_feed (asked fed waiting : List UInt64) :
    Reaches limit ⟨asked, fed, waiting⟩ ⟨asked, fed ++ waiting, []⟩ := by
  induction waiting generalizing fed with
  | nil => simpa using Relation.ReflTransGen.refl
  | cons oldest waiting ih =>
    apply Relation.ReflTransGen.head (.feed oldest)
    simpa using ih (fed ++ [oldest])

end Ledger

namespace Operation

def clears : Operation β → Bool
  | .clear | .close => true
  | _ => false

def isContended : Operation β → Bool
  | .get _ contended => contended
  | _ => false

/-- The request with which an answer on demand begins. -/
def opening : Operation β → List (Operation β)
  | .compute key _ _ _ _ => [.get key false]
  | _ => []

end Operation

def requested (c : Cache β σ) : Operation β → List UInt64
  | .get key _ | .compute key _ _ _ _ => if c.closed then [] else [keyHash key]
  | _ => []

/-- The cache has counted and still holds what a ledger says, beginning with a sketch. -/
structure Ledger.Mirrors (l : Ledger) (base : Sketch) (c : Cache β σ) : Prop where
  waiting : l.waiting = c.reads
  sketch : c.sketch = l.fed.foldl Sketch.increment base

/-- A ledger that was kept along a run, operation by operation. -/
inductive Books [RandomSource σ] (start : Cache β σ) : List (Operation β) → Ledger → Prop
  | blank : Books start [] .blank
  | clear {ops : List (Operation β)} {l : Ledger} {op : Operation β} (h : Books start ops l)
      (hclears : op.clears = true) : Books start (ops ++ [op]) .blank
  | move {ops : List (Operation β)} {l l' : Ledger} {op : Operation β} (h : Books start ops l)
      (hkeeps : op.clears = false) (hmoves : l.Reaches (4 * start.sizes.bufferItems) l')
      (hasked : l'.asked = l.asked ++ (start.run ops).requested op)
      (hmirrors : l'.Mirrors start.sketch (start.run (ops ++ [op]))) :
    Books start (ops ++ [op]) l'

theorem Books.sublist [RandomSource σ] {start : Cache β σ} {ops : List (Operation β)} {l : Ledger}
    (h : Books start ops l) : (l.fed ++ l.waiting).Sublist l.asked := by
  induction h with
  | blank => exact List.Sublist.refl []
  | clear _ _ _ => exact List.Sublist.refl []
  | move _ _ hmoves _ _ ih => exact hmoves.sublist ih

section Drains

/-- The requests that wait, and those that the sketch has counted, are left alone, or all that wait
are fed to the sketch. -/
def Drains (c c' : Cache β σ) : Prop :=
  (c'.reads = c.reads ∧ c'.sketch = c.sketch) ∨
    (c'.reads = [] ∧ c'.sketch = c.reads.foldl Sketch.increment c.sketch)

variable {c c' c'' : Cache β σ}

theorem Drains.refl (c : Cache β σ) : Drains c c :=
  .inl ⟨rfl, rfl⟩

theorem Drains.trans (h : Drains c c') (h' : Drains c' c'') : Drains c c'' := by
  unfold Drains at *
  rcases h with ⟨hreads, hsketch⟩ | ⟨hreads, hsketch⟩
  · rwa [hreads, hsketch] at h'
  · simp only [hreads, hsketch, List.foldl_nil, or_self] at h'
    exact .inr h'

/-- What all requests have become in the end does not depend on when they were fed. -/
theorem Drains.foldl_eq (h : Drains c c') :
    c'.reads.foldl Sketch.increment c'.sketch = c.reads.foldl Sketch.increment c.sketch := by
  rcases h with ⟨hreads, hsketch⟩ | ⟨hreads, hsketch⟩
  · rw [hreads, hsketch]
  · rw [hreads, hsketch, List.foldl_nil]

theorem Drains.length_le (h : Drains c c') : c'.reads.length ≤ c.reads.length := by
  rcases h with ⟨hreads, -⟩ | ⟨hreads, -⟩
  · rw [hreads]
  · rw [hreads]
    exact Nat.zero_le _

def collect (c : Cache β σ) (hash : UInt64) : Cache β σ :=
  { c with reads := (c.reads ++ [hash]).drop ((c.reads ++ [hash]).length - c.readLimit) }

theorem reads_collect (c : Cache β σ) (hash : UInt64) : (c.collect hash).reads =
    (c.reads ++ [hash]).drop (c.reads.length + 1 - 4 * c.sizes.bufferItems) := by
  simp [collect, readLimit, readLimitOf]

theorem drains_recordAccess (c : Cache β σ) (contended : Bool) (hash : UInt64) :
    Drains (c.collect hash) (c.recordAccess contended hash) := by
  unfold recordAccess
  dsimp only
  split
  · exact .refl _
  · exact .inr ⟨rfl, rfl⟩

theorem length_recordAccess_lt (c : Cache β σ) (hash : UInt64) :
    (c.recordAccess false hash).reads.length < c.sizes.bufferItems := by
  unfold recordAccess
  dsimp only
  split
  · rename_i hfew
    simpa using hfew
  · exact c.sizes.bufferItems_pos

theorem drains_get (c : Cache β σ) (key : String) (contended : Bool) (hopen : c.closed = false) :
    Drains (c.collect (keyHash key)) (c.get key contended).2 := by
  unfold get
  rw [hopen]
  exact drains_recordAccess c contended (keyHash key)

theorem get_of_closed (key : String) (contended : Bool) (hclosed : c.closed = true) :
    (c.get key contended).2 = c := by
  simp [get, hclosed]

theorem drains_remove (c : Cache β σ) (key : String) : Drains c (c.remove key) := by
  unfold remove
  split <;> exact .refl _

variable [RandomSource σ]

theorem requests_settle (c : Cache β σ) (p : PendingSet β) :
    (c.settle p).reads = c.reads ∧ (c.settle p).sketch = c.sketch := by
  have hroom := fun incoming cost fuel => makeRoom_keeps (c := c)
    (P := fun c' => c'.reads = c.reads ∧ c'.sketch = c.sketch) (fun _ _ h => h)
    (fun c' key h => by
      unfold evict remove
      dsimp only
      split <;> exact h)
    (fun _ h => h) incoming cost fuel ⟨rfl, rfl⟩
  unfold settle
  split
  · exact ⟨rfl, rfl⟩
  · have hdecided := hroom (c.sketch.estimate p.hash) p.cost c.costs.length
    unfold consider
    generalize makeRoom (c.sketch.estimate p.hash) p.cost c.costs.length c = decided at hdecided
    rcases decided with ⟨_ | _, r⟩ <;> exact hdecided

theorem requests_settleAll (c : Cache β σ) (ps : List (PendingSet β)) :
    (ps.foldl settle c).reads = c.reads ∧ (ps.foldl settle c).sketch = c.sketch := by
  induction ps generalizing c with
  | nil => exact ⟨rfl, rfl⟩
  | cons p ps ih =>
    obtain ⟨hreads, hsketch⟩ := requests_settle c p
    rw [← hreads, ← hsketch]
    exact ih (c.settle p)

theorem drains_wait (c : Cache β σ) : Drains c c.wait := by
  rcases wait_cases c with ⟨-, hwait⟩ | hwait
  · rw [hwait]
    exact .refl c
  · rw [hwait]
    exact .inr (requests_settleAll c.ready c.pending)

theorem drains_set (c : Cache β σ) (key : String) (value : Option (Stored β)) (cost : Int) :
    Drains c (c.set key value cost).2 := by
  rcases set_cases c key value cost with ⟨-, c', hset, rfl | rfl⟩ |
    ⟨v, -, -, -, ⟨-, hset⟩ | ⟨-, -, hset⟩ | ⟨-, -, hset⟩⟩
  · rw [hset]
    exact .refl _
  · rw [hset]
    exact .refl _
  · rw [hset]
    exact .refl _
  · rw [hset]
    exact .refl _
  · rw [hset]
    exact drains_wait (c.hold (offered key v cost))

theorem drains_compute (c : Cache β σ) (key : String) (now limit : Float)
    (answer : Option (β × Float)) (cost : Int) :
    Drains (c.get key false).2 (c.compute key now limit answer cost).2 := by
  unfold compute
  rw [live?_eq]
  cases fresh? now limit (c.get key false).1 with
  | some payload => exact .refl _
  | none =>
    cases answer with
    | none => exact .refl _
    | some answer =>
      exact (drains_set _ key (some (.entry answer.1 answer.2)) cost).trans (drains_wait _)

theorem drains_step (c : Cache β σ) {op : Operation β} (hkeeps : op.clears = false) :
    (c.requested op = [] ∧ Drains c (c.step op)) ∨
      ∃ hash, c.requested op = [hash] ∧ Drains (c.collect hash) (c.step op) := by
  have hget : ∀ key contended, ((if c.closed then [] else [keyHash key]) = [] ∧
      Drains c (c.get key contended).2) ∨
        ∃ hash, (if c.closed then [] else [keyHash key]) = [hash] ∧
          Drains (c.collect hash) (c.get key contended).2 := by
    intro key contended
    cases hclosed : c.closed with
    | true =>
      rw [get_of_closed key contended hclosed]
      exact .inl ⟨rfl, .refl c⟩
    | false => exact .inr ⟨keyHash key, rfl, drains_get c key contended hclosed⟩
  cases op with
  | set key value cost => exact .inl ⟨rfl, drains_set c key value cost⟩
  | get key contended => exact hget key contended
  | wait => exact .inl ⟨rfl, drains_wait c⟩
  | delete key => exact .inl ⟨rfl, drains_remove (c.withdraw key) key⟩
  | clear => cases hkeeps
  | close => cases hkeeps
  | compute key now limit answer cost =>
    have hrest := drains_compute c key now limit answer cost
    refine (hget key false).imp ?_ ?_
    · exact fun h => ⟨h.1, h.2.trans hrest⟩
    · rintro ⟨hash, hrequested, hdrains⟩
      exact ⟨hash, hrequested, hdrains.trans hrest⟩

end Drains

section Keeping

/-- No more requests wait than may, and none in a closed cache. -/
structure Collects (c : Cache β σ) : Prop where
  few : c.reads.length ≤ 4 * c.sizes.bufferItems
  shut : c.closed = true → c.reads = []

variable {c c' : Cache β σ} {l : Ledger} {base : Sketch}

theorem Ledger.Mirrors.drains (hl : l.Mirrors base c) (h : Drains c c') (limit : Nat) :
    ∃ l', l.Reaches limit l' ∧ l'.asked = l.asked ∧ l'.Mirrors base c' ∧
      l'.fed ++ l'.waiting = l.fed ++ l.waiting := by
  obtain ⟨hwaiting, hsketch⟩ := hl
  rcases h with ⟨hreads, hsame⟩ | ⟨hreads, hfed⟩
  · exact ⟨l, .refl, rfl, ⟨hwaiting.trans hreads.symm, hsame.trans hsketch⟩, rfl⟩
  · refine ⟨⟨l.asked, l.fed ++ l.waiting, []⟩, reaches_feed _ _ _, rfl, ⟨hreads.symm, ?_⟩, by simp⟩
    rw [hfed, hsketch, hwaiting, List.foldl_append]

theorem Ledger.Mirrors.collect (hl : l.Mirrors base c)
    (hfew : c.reads.length ≤ 4 * c.sizes.bufferItems) (hash : UInt64) :
    ∃ l', l.Moves (4 * c.sizes.bufferItems) l' ∧ l'.asked = l.asked ++ [hash] ∧
      l'.Mirrors base (c.collect hash) ∧ (c.reads.length < 4 * c.sizes.bufferItems →
        l'.fed ++ l'.waiting = l.fed ++ l.waiting ++ [hash]) := by
  obtain ⟨asked, fed, waiting⟩ := l
  obtain ⟨rfl, hsketch⟩ := hl
  have hpos := c.sizes.bufferItems_pos
  by_cases hroom : c.reads.length < 4 * c.sizes.bufferItems
  · refine ⟨⟨asked ++ [hash], fed, c.reads ++ [hash]⟩, .collect hash hroom, rfl, ⟨?_, hsketch⟩, ?_⟩
    · have hnone : c.reads.length + 1 - 4 * c.sizes.bufferItems = 0 := by omega
      simp [reads_collect, hnone]
    · simp
  · cases hreads : c.reads with
    | nil =>
      rw [hreads] at hroom
      simp at hroom
      omega
    | cons oldest waiting =>
      rw [hreads] at hroom hfew
      have hfull : (oldest :: waiting).length = 4 * c.sizes.bufferItems := by omega
      refine ⟨⟨asked ++ [hash], fed, waiting ++ [hash]⟩, .displace hash oldest hfull, rfl,
        ⟨?_, hsketch⟩, fun h => absurd h hroom⟩
      have hone : (oldest :: waiting).length + 1 - 4 * c.sizes.bufferItems = 1 := by omega
      rw [reads_collect, hreads, hone]
      rfl

theorem Collects.short_get (h : Collects c) (key : String) :
    (c.get key false).2.reads.length < c.sizes.bufferItems := by
  cases hclosed : c.closed with
  | true =>
    rw [get_of_closed key false hclosed, h.shut hclosed]
    exact c.sizes.bufferItems_pos
  | false =>
    have hlength := length_recordAccess_lt c (keyHash key)
    unfold get
    rw [hclosed]
    exact hlength

variable [RandomSource σ]

theorem Ledger.Mirrors.step (hl : l.Mirrors base c) (h : Collects c) {op : Operation β}
    (hkeeps : op.clears = false) :
    ∃ l', l.Reaches (4 * c.sizes.bufferItems) l' ∧ l'.asked = l.asked ++ c.requested op ∧
      l'.Mirrors base (c.step op) ∧ (c.reads.length < c.sizes.bufferItems →
        l'.fed ++ l'.waiting = l.fed ++ l.waiting ++ c.requested op) := by
  rcases drains_step c hkeeps with ⟨hnone, hdrains⟩ | ⟨hash, hone, hdrains⟩
  · obtain ⟨l', hreaches, hasked, hmirrors, hsame⟩ := hl.drains hdrains (4 * c.sizes.bufferItems)
    simp only [hnone, List.append_nil]
    exact ⟨l', hreaches, hasked, hmirrors, fun _ => hsame⟩
  · obtain ⟨mid, hmove, hasked, hmid, hkept⟩ := hl.collect h.few hash
    obtain ⟨l', hreaches, hasked', hmirrors, hsame⟩ := hmid.drains hdrains (4 * c.sizes.bufferItems)
    rw [hone]
    refine ⟨l', .head hmove hreaches, hasked'.trans hasked, hmirrors, fun hshort => ?_⟩
    rw [hsame]
    exact hkept (by omega)

theorem closed_of_keeps (c : Cache β σ) {op : Operation β} (hkeeps : op.clears = false) :
    (c.step op).closed = c.closed := by
  have hget : ∀ key contended, (c.get key contended).2.closed = c.closed := by
    intro key contended
    obtain ⟨sketch, reads, metrics, hget⟩ := get_frame c key contended
    rw [hget]
  cases op with
  | set key value cost => exact closed_set c key value cost
  | get key contended => exact hget key contended
  | wait => exact closed_wait c
  | delete key => exact closed_remove (c.withdraw key) key
  | clear => cases hkeeps
  | close => cases hkeeps
  | compute key now limit answer cost =>
    unfold step compute
    dsimp only
    rw [live?_eq]
    cases fresh? now limit (c.get key false).1 with
    | some payload => exact hget key false
    | none =>
      cases answer with
      | none => exact hget key false
      | some answer => simp [keep, closed_wait, closed_set, hget key false]

theorem reads_of_clears (c : Cache β σ) {op : Operation β} (hclears : op.clears = true) :
    (c.step op).reads = [] ∧ (c.step op).sketch = c.sketch.clear := by
  cases op <;> first | exact ⟨rfl, rfl⟩ | cases hclears

theorem Collects.step (h : Collects c) (op : Operation β) : Collects (c.step op) := by
  cases hclears : op.clears with
  | true =>
    have hreads := (reads_of_clears c hclears).1
    exact ⟨by simp [hreads], fun _ => hreads⟩
  | false =>
    have hsizes := (kin_step c op).1
    constructor
    · rw [hsizes]
      rcases drains_step c hclears with ⟨-, hdrains⟩ | ⟨hash, -, hdrains⟩
      · exact Nat.le_trans hdrains.length_le h.few
      · refine Nat.le_trans hdrains.length_le ?_
        rw [reads_collect, List.length_drop, List.length_append, List.length_singleton]
        have hpos := c.sizes.bufferItems_pos
        omega
    · intro hclosed
      rw [closed_of_keeps c hclears] at hclosed
      rcases drains_step c hclears with ⟨-, hdrains⟩ | ⟨hash, hone, -⟩
      · apply List.eq_nil_of_length_eq_zero
        simpa [h.shut hclosed] using hdrains.length_le
      · cases op <;> simp [requested, hclosed] at hone

theorem Collects.run (h : Collects c) (ops : List (Operation β)) : Collects (c.run ops) :=
  run_keeps (fun _ op hc => hc.step op) h ops

theorem Collects.short_step (h : Collects c) {op : Operation β} (halone : op.isContended = false)
    (hshort : c.reads.length < c.sizes.bufferItems) :
    (c.step op).reads.length < c.sizes.bufferItems := by
  cases op with
  | set key value cost => exact Nat.lt_of_le_of_lt (drains_set c key value cost).length_le hshort
  | get key contended =>
    cases contended with
    | true => cases halone
    | false => exact h.short_get key
  | wait => exact Nat.lt_of_le_of_lt (drains_wait c).length_le hshort
  | delete key =>
    exact Nat.lt_of_le_of_lt (drains_remove (c.withdraw key) key).length_le hshort
  | clear => exact c.sizes.bufferItems_pos
  | close => exact c.sizes.bufferItems_pos
  | compute key now limit answer cost =>
    exact Nat.lt_of_le_of_lt (drains_compute c key now limit answer cost).length_le
      (h.short_get key)

end Keeping

section Newcomers

variable [RandomSource σ] {c : Cache β σ} {m : Cache β σ × PendingSet β}

theorem requests_waitMeetings (h : m ∈ c.waitMeetings) :
    m.1.reads = [] ∧ m.1.sketch = c.reads.foldl Sketch.increment c.sketch := by
  obtain ⟨before, -, -, hm⟩ := eq_foldl_of_mem_meetings h
  rw [hm]
  exact requests_settleAll c.ready before

theorem requests_setMeetings {key : String} {value : Option (Stored β)} {cost : Int}
    (h : m ∈ c.setMeetings key value cost) (hnew : m.1.resident m.2.key = false) :
    m.1.reads = [] ∧ m.1.sketch = c.reads.foldl Sketch.increment c.sketch := by
  unfold setMeetings at h
  cases value with
  | none => simp at h
  | some v =>
    dsimp only at h
    split at h
    · simp at h
    · split at h
      · rename_i hres
        rw [List.mem_singleton.mp h] at hnew
        exact absurd hres (by simpa [offered] using hnew)
      · split at h
        · have hflush := requests_waitMeetings (c := c.hold (offered key v cost)) h
          exact hflush
        · simp at h

theorem requests_stepMeetings {op : Operation β} (h : m ∈ c.stepMeetings op)
    (hnew : m.1.resident m.2.key = false) :
    m.1.reads = [] ∧ m.1.sketch =
      (c.run op.opening).reads.foldl Sketch.increment (c.run op.opening).sketch := by
  cases op with
  | set key value cost => exact requests_setMeetings h hnew
  | wait => exact requests_waitMeetings h
  | get _ _ | delete _ | clear | close => exact absurd h List.not_mem_nil
  | compute key now limit answer cost =>
    have hasked : c.run [.get key false] = (c.get key false).2 := rfl
    unfold stepMeetings at h
    dsimp only at h
    rw [live?_eq] at h
    unfold Operation.opening
    rw [hasked]
    split at h
    · rename_i payload time hlive
      obtain ⟨-, rfl⟩ := Prod.mk.inj hlive
      rcases List.mem_append.mp h with h | h
      · exact requests_setMeetings h hnew
      · rw [← (drains_set _ key (some (.entry payload time)) cost).foldl_eq]
        exact requests_waitMeetings h
    · simp at h

end Newcomers

section Runs

variable [RandomSource σ] {config : CacheConfig} {random : σ} {c : Cache β σ}

theorem sketch_clear_of_make (hmake : make config random = .ok c) : c.sketch.clear = c.sketch := by
  obtain ⟨sizes, words, _, -, rfl⟩ := exists_seeds_of_make hmake
  exact Sketch.clear_withSeeds sizes.counters words

theorem collects_of_make (hmake : make config random = .ok c) : Collects c := by
  obtain ⟨sizes, sketch, random', -, rfl⟩ := eq_ofSketch_of_make hmake
  exact ⟨Nat.zero_le _, fun _ => rfl⟩

theorem exists_books (hmake : make config random = .ok c) (ops : List (Operation β)) :
    ∃ l, Books c ops l ∧ l.Mirrors c.sketch (c.run ops) ∧
      ((∀ op ∈ ops, op.isContended = false) →
        (c.run ops).reads.length < c.sizes.bufferItems ∧ l.fed ++ l.waiting = l.asked) := by
  induction ops using List.reverseRecOn with
  | nil =>
    obtain ⟨sizes, sketch, random', -, rfl⟩ := eq_ofSketch_of_make hmake
    exact ⟨.blank, .blank, ⟨rfl, rfl⟩, fun _ => ⟨sizes.bufferItems_pos, rfl⟩⟩
  | append_singleton ops op ih =>
    obtain ⟨l, hbooks, hmirrors, hkept⟩ := ih
    have hcollects := (collects_of_make hmake).run ops
    have hsizes := (kin_run c ops).1
    rw [run_append_singleton]
    cases hclears : op.clears with
    | true =>
      obtain ⟨hreads, hsketch⟩ := reads_of_clears (c.run ops) hclears
      have hclear : (c.run ops).sketch.clear = c.sketch :=
        (kin_run c ops).2.trans (sketch_clear_of_make hmake)
      refine ⟨.blank, hbooks.clear hclears, ⟨hreads.symm, hsketch.trans hclear⟩, fun _ => ⟨?_, rfl⟩⟩
      rw [hreads]
      exact c.sizes.bufferItems_pos
    | false =>
      obtain ⟨l', hreaches, hasked, hmirrors', hsame⟩ := hmirrors.step hcollects hclears
      rw [hsizes] at hreaches hsame
      have hnext := hmirrors'
      rw [← run_append_singleton] at hnext
      refine ⟨l', hbooks.move hclears hreaches hasked hnext, hmirrors', fun halone => ?_⟩
      obtain ⟨hshort, hall⟩ := hkept fun op hop => halone op (List.mem_append_left _ hop)
      rw [← hsizes]
      refine ⟨hcollects.short_step (halone op (by simp)) (by rwa [hsizes]), ?_⟩
      rw [hsame hshort, hall, hasked]

/-- After any run the requests that the sketch has counted since the last clearing, and then those
that wait, are those that were made since, in their order, except that some of them were the oldest
of four buffers' worth when one more came. A request that meets no others leaves less than a
buffer's worth, and where none meets others nothing is missing. A new key is decided on when the
sketch has counted all that waited before. -/
theorem books_run (hmake : make config random = .ok c) (ops : List (Operation β)) :
    (∃ l, Books c ops l ∧ (c.run ops).sketch = l.fed.foldl Sketch.increment c.sketch ∧
      l.waiting = (c.run ops).reads ∧ (l.fed ++ l.waiting).Sublist l.asked ∧
      ((∀ op ∈ ops, op.isContended = false) → l.fed ++ l.waiting = l.asked)) ∧
    (∀ key, ((c.run ops).get key false).2.reads.length < config.bufferItems) ∧
    ∀ op m, m ∈ (c.run ops).stepMeetings op → m.1.resident m.2.key = false →
      ∃ l, Books c (ops ++ op.opening) l ∧ m.1.reads = [] ∧
        m.1.sketch = (l.fed ++ l.waiting).foldl Sketch.increment c.sketch := by
  have hbuffer : (c.sizes.bufferItems : Int) = config.bufferItems := by
    obtain ⟨sizes, sketch, random', hsizes, rfl⟩ := exists_sizes_of_make hmake
    exact (sizes_eq hsizes).2
  refine ⟨?ledger, ?short, ?newcomer⟩
  case ledger =>
    obtain ⟨l, hbooks, hmirrors, hkept⟩ := exists_books hmake ops
    exact ⟨l, hbooks, hmirrors.sketch, hmirrors.waiting, hbooks.sublist, fun h => (hkept h).2⟩
  case short =>
    intro key
    have hshort := ((collects_of_make hmake).run ops).short_get key
    rw [(kin_run c ops).1] at hshort
    rw [← hbuffer]
    exact Int.ofNat_lt.mpr hshort
  case newcomer =>
    intro op m hm hnew
    obtain ⟨l, hbooks, hmirrors, -⟩ := exists_books hmake (ops ++ op.opening)
    obtain ⟨hreads, hsketch⟩ := requests_stepMeetings hm hnew
    have hrun : (c.run ops).run op.opening = c.run (ops ++ op.opening) := by simp [run]
    refine ⟨l, hbooks, hreads, ?_⟩
    rw [hsketch, hrun, List.foldl_append, ← hmirrors.sketch, hmirrors.waiting]

/-- Five requests meet others, where four may wait; the first is lost. -/
def crowded : List (Operation String) :=
  [.get "a" true, .get "b" true, .get "c" true, .get "d" true, .get "e" true]

theorem books_crowded : ∃ c : Cache String Congruential, make ⟨16, 10, 1⟩ ⟨1, []⟩ = .ok c ∧
    (∃ l, Books c crowded l ∧ l.waiting = ["b", "c", "d", "e"].map keyHash ∧
      (c.run crowded).sketch = l.fed.foldl Sketch.increment c.sketch) ∧
    ((c.run crowded).get "f" false).2.reads.length < 1 := by
  obtain ⟨c, hmake, hreads⟩ : ∃ c : Cache String Congruential, make ⟨16, 10, 1⟩ ⟨1, []⟩ = .ok c ∧
      (c.run crowded).reads = ["b", "c", "d", "e"].map keyHash := ⟨_, rfl, by decide +kernel⟩
  obtain ⟨⟨l, hbooks, hsketch, hwaiting, -⟩, hshort, -⟩ := books_run hmake crowded
  exact ⟨c, hmake, ⟨l, hbooks, hwaiting.trans hreads, hsketch⟩, Int.ofNat_lt.mp (hshort "f")⟩

end Runs
end Census.Cache
