import Census.Proofs.Cache.Sound

/-! What a cache answers. Beside the cache runs a plain table that takes every accepted value at
once; a value on its way through the buffer, a replacement or an admission never lets the cache
answer anything else for its key, although the cache may have lost it. -/
namespace Census.Cache

variable {β σ : Type}

section Newest

def lastOf : List (PendingSet β) → String → Option (Stored β)
  | [], _ => none
  | p :: ps, key => (lastOf ps key).or (if p.key = key then some p.value else none)

def lastEntry : List (PendingSet β) → String → Option (PendingSet β)
  | [], _ => none
  | p :: ps, key => (lastEntry ps key).or (if p.key = key then some p else none)

theorem lastOf_eq (ps : List (PendingSet β)) (key : String) :
    lastOf ps key = (lastEntry ps key).map (·.value) := by
  induction ps with
  | nil => rfl
  | cons p ps ih =>
    rw [lastOf, lastEntry, ih]
    cases lastEntry ps key with
    | some q => rfl
    | none => split <;> rfl

theorem lastEntry_append_singleton (ps : List (PendingSet β)) (p : PendingSet β) (key : String) :
    lastEntry (ps ++ [p]) key = if p.key = key then some p else lastEntry ps key := by
  induction ps with
  | nil => simp [lastEntry]
  | cons q qs ih =>
    rw [List.cons_append, lastEntry, ih, lastEntry]
    split <;> simp

theorem lastEntry_filter (ps : List (PendingSet β)) (gone key : String) :
    lastEntry (ps.filter (·.key != gone)) key =
      if gone = key then none else lastEntry ps key := by
  induction ps with
  | nil => simp [lastEntry]
  | cons p ps ih =>
    by_cases hp : p.key = gone
    · rw [List.filter_cons_of_neg (by simp [hp]), ih, lastEntry, hp]
      by_cases hkey : gone = key <;> simp [hkey]
    · rw [List.filter_cons_of_pos (by simp [hp]), lastEntry, lastEntry, ih]
      by_cases hkey : gone = key
      · have hne : p.key ≠ key := fun h => hp (h.trans hkey.symm)
        simp [hkey, hne]
      · simp [hkey]

theorem lastEntry_eq_none {ps : List (PendingSet β)} {key : String}
    (h : ∀ p ∈ ps, p.key ≠ key) : lastEntry ps key = none := by
  induction ps with
  | nil => rfl
  | cons p ps ih =>
    rw [lastEntry, ih fun q hq => h q (List.mem_cons_of_mem p hq),
      if_neg (h p List.mem_cons_self)]
    rfl

theorem lastOf_append_singleton (ps : List (PendingSet β)) (p : PendingSet β) (key : String) :
    lastOf (ps ++ [p]) key = if p.key = key then some p.value else lastOf ps key := by
  rw [lastOf_eq, lastEntry_append_singleton, lastOf_eq]
  split <;> rfl

theorem lastOf_filter (ps : List (PendingSet β)) (gone key : String) :
    lastOf (ps.filter (·.key != gone)) key = if gone = key then none else lastOf ps key := by
  rw [lastOf_eq, lastEntry_filter, lastOf_eq]
  split <;> rfl

def newest (c : Cache β σ) (key : String) : Option (Stored β) :=
  (lastOf c.pending key).or (c.lookup key)

/-- A cache that holds nothing but what the table holds. -/
def Tracks (c : Cache β σ) (t : Table (Stored β)) : Prop :=
  ∀ key, c.newest key = none ∨ c.newest key = t.get? key

variable {c : Cache β σ} {t : Table (Stored β)}

theorem Sound.lastEntry_eq_none (h : Sound c) {key : String} (hres : c.resident key = true) :
    lastEntry c.pending key = none := by
  apply Cache.lastEntry_eq_none
  intro p hp heq
  have hpres := (h.waiting p hp).2
  rw [heq, hres] at hpres
  exact Bool.noConfusion hpres

theorem Sound.lastOf_eq_none (h : Sound c) {key : String} (hres : c.resident key = true) :
    lastOf c.pending key = none := by
  rw [lastOf_eq, h.lastEntry_eq_none hres]
  rfl

theorem newest_hold (c : Cache β σ) (p : PendingSet β) (key : String) :
    (c.hold p).newest key = if p.key = key then some p.value else c.newest key := by
  have hlast := lastOf_append_singleton c.pending p key
  unfold newest hold lookup
  dsimp only
  rw [hlast]
  split <;> rfl

theorem Sound.newest_update (h : Sound c) {key : String} (hres : c.resident key = true)
    (value : Stored β) (cost : Int) (other : String) :
    (c.update key (keyHash key) value cost).newest other =
      if key = other then some value else c.newest other := by
  have hlookup : (c.update key (keyHash key) value cost).newest other =
      (lastOf c.pending other).or (if key = other then some value else c.lookup other) := by
    rw [← lookup_place]
    rfl
  rw [hlookup]
  by_cases hkey : key = other
  · rw [if_pos hkey, if_pos hkey, h.lastOf_eq_none (hkey ▸ hres), Option.none_or]
  · rw [if_neg hkey, if_neg hkey]
    rfl

theorem Balanced.newest_delete (h : Balanced c) (key other : String) :
    (c.delete key).newest other = if key = other then none else c.newest other := by
  have hlookup := (h.withdraw key).lookup_remove key other
  have hlast := lastOf_filter c.pending key other
  rw [delete_eq]
  unfold newest
  rw [pending_remove, hlookup]
  unfold Cache.withdraw
  dsimp only
  rw [hlast]
  split <;> rfl

theorem Tracks.put {c' : Cache β σ} (ht : Tracks c t) {key : String} {value : Stored β}
    (hnewest : ∀ other, c'.newest other = if key = other then some value else c.newest other) :
    Tracks c' (t.put key value) := by
  intro other
  rw [hnewest, Table.get?_put]
  split
  · exact .inr rfl
  · exact ht other

theorem Tracks.remove {c' : Cache β σ} (ht : Tracks c t) {key : String}
    (hnewest : ∀ other, c'.newest other = if key = other then none else c.newest other) :
    Tracks c' (t.remove key) := by
  intro other
  rw [hnewest, Table.get?_remove]
  split
  · exact .inl rfl
  · exact ht other

theorem tracks_of_empty {t : Table (Stored β)}
    (hshards : c.shards = Vector.replicate shardCount []) (hpending : c.pending = []) :
    Tracks c t := by
  intro key
  left
  unfold newest lookup
  rw [hpending, hshards]
  simp [lastOf, Table.get?]

theorem Tracks.get (ht : Tracks c t) (key : String) (contended : Bool) :
    Tracks (c.get key contended).2 t := by
  obtain ⟨sketch, reads, metrics, hget⟩ := get_frame c key contended
  rw [hget]
  exact ht

theorem get_fst (h : Sound c) (key : String) (contended : Bool) :
    (c.get key contended).1 = if c.resident key = true then c.newest key else none := by
  have hnewest : c.resident key = true → c.newest key = c.lookup key := by
    intro hres
    unfold newest
    rw [h.lastOf_eq_none hres, Option.none_or]
  unfold get
  cases hclosed : c.closed with
  | true =>
    have hres : c.resident key = false := by
      unfold resident
      rw [(h.shut hclosed).1]
      rfl
    simp [hres]
  | false =>
    cases hres : c.resident key with
    | true => simp [hnewest hres]
    | false => simp [h.toBalanced.lookup_eq_none hres]

theorem Tracks.live? (ht : Tracks c t) (h : Sound c) {key : String} {now limit : Float} {payload : β}
    (hlive : (c.live? key now limit).1 = some payload) :
    ∃ time, t.get? key = some (.entry payload time) ∧ now - time < limit := by
  have hfresh : fresh? now limit (c.get key false).1 = some payload := hlive
  rw [get_fst h] at hfresh
  have hnewest : fresh? now limit (c.newest key) = some payload := by
    split at hfresh
    · exact hfresh
    · cases hfresh
  rcases ht key with hnone | htable
  · rw [hnone] at hnewest
    cases hnewest
  · rw [htable] at hnewest
    unfold fresh? at hnewest
    split at hnewest
    · rename_i found time hfound
      split at hnewest
      · rename_i hyoung
        rw [Option.some.inj hnewest] at hfound
        exact ⟨time, hfound, hyoung⟩
      · cases hnewest
    · cases hnewest

end Newest

variable [RandomSource σ] {c : Cache β σ} {t : Table (Stored β)}

theorem tracks_of_make {config : CacheConfig} {random : σ} (h : make config random = .ok c)
    (t : Table (Stored β)) : Tracks c t := by
  obtain ⟨sizes, sketch, random', -, hempty⟩ := eq_ofSketch_of_make h
  rw [hempty]
  exact tracks_of_empty rfl rfl

def noteSet (c : Cache β σ) (t : Table (Stored β)) (key : String) (value : Option (Stored β))
    (cost : Int) : Table (Stored β) :=
  match value with
  | some v => if (c.set key value cost).1 then t.put key v else t
  | none => t

theorem noteSet_cases (c : Cache β σ) (t : Table (Stored β)) (key : String) (v : Stored β)
    (cost : Int) : c.noteSet t key (some v) cost = t ∨ c.noteSet t key (some v) cost = t.put key v := by
  unfold noteSet
  dsimp only
  split
  · exact .inr rfl
  · exact .inl rfl

def note (c : Cache β σ) (t : Table (Stored β)) : Operation β → Table (Stored β)
  | .set key value cost => c.noteSet t key value cost
  | .delete key => t.remove key
  | .clear => []
  | .close => []
  | .compute key now limit answer cost =>
    match c.live? key now limit, answer with
    | (none, c), some (payload, time) => c.noteSet t key (some (.entry payload time)) cost
    | _, _ => t
  | _ => t

/-- What a table holds after a run of a cache beside which it takes every accepted value at once,
and forgets with every removal and clearing. -/
def written (c : Cache β σ) (t : Table (Stored β)) : List (Operation β) → Table (Stored β)
  | [] => t
  | op :: ops => (c.step op).written (c.note t op) ops

theorem lookup_settleAll (h : Balanced c) {ps : List (PendingSet β)}
    (hps : ∀ p ∈ ps, Admissible c.sizes p) (key : String) :
    (ps.foldl settle c).lookup key = none ∨
      (ps.foldl settle c).lookup key = (lastOf ps key).or (c.lookup key) := by
  induction ps generalizing c with
  | nil => exact .inr rfl
  | cons p ps ih =>
    have hp := hps p List.mem_cons_self
    have hrest : ∀ q ∈ ps, Admissible (c.settle p).sizes q := by
      rw [(settle_frame c p).1]
      exact fun q hq => hps q (List.mem_cons_of_mem p hq)
    rw [List.foldl_cons, lastOf]
    -- a later value of the key overrules what this one leaves, admitted or not
    rcases ih (h.settle hp) hrest with hnone | hlast
    · exact .inl hnone
    · rw [hlast]
      cases hlater : lastOf ps key with
      | some v => exact .inr rfl
      | none =>
        refine (lookup_settle h hp key).imp (fun hgone => hgone) fun hsettled => ?_
        rw [Option.none_or, hsettled]
        split <;> rfl

theorem Tracks.wait (ht : Tracks c t) (h : Balanced c)
    (hps : ∀ p ∈ c.pending, Admissible c.sizes p) : Tracks c.wait t := by
  intro key
  rcases wait_cases c with ⟨-, hwait⟩ | hwait
  · rw [hwait]
    exact ht key
  · have hpending : c.wait.pending = [] := by
      rw [hwait, (settleAll_frame c.ready c.pending).2.1]
      rfl
    have hnewest : c.wait.newest key = c.wait.lookup key := by
      unfold newest
      rw [hpending, lastOf, Option.none_or]
    rw [hnewest, hwait]
    rcases lookup_settleAll h.ready hps key with hnone | hlast
    · exact .inl hnone
    · rw [hlast]
      exact ht key

theorem Tracks.set (ht : Tracks c t) (h : Sound c) (key : String) (value : Option (Stored β))
    (cost : Int) : Tracks (c.set key value cost).2 (c.noteSet t key value cost) := by
  rcases set_cases c key value cost with ⟨-, c', hset, hsame⟩ | ⟨v, rfl, -, hcost, hcases⟩
  · have hnote : c.noteSet t key value cost = t := by
      cases value with
      | none => rfl
      | some v =>
        unfold noteSet
        dsimp only
        rw [hset]
        rfl
    rw [hnote, hset]
    rcases hsame with rfl | rfl
    · exact ht
    · exact ht
  · have hoffer := admissible_offered hcost key v
    have hheld : Tracks (c.hold (offered key v cost)) (t.put key v) :=
      ht.put (newest_hold c (offered key v cost))
    rcases hcases with ⟨hres, hset⟩ | ⟨-, -, hset⟩ | ⟨-, -, hset⟩
    · rw [noteSet, hset]
      exact ht.put (h.newest_update hres v (max cost 1))
    · rw [noteSet, hset]
      exact hheld
    · rw [noteSet, hset]
      exact hheld.wait (h.toBalanced.congr rfl rfl rfl rfl) (h.admissible_hold hoffer)

theorem Tracks.keep (ht : Tracks c t) (h : Sound c) (key : String) (payload : β) (time : Float)
    (cost : Int) :
    Tracks (c.keep key payload time cost) (c.noteSet t key (some (.entry payload time)) cost) := by
  have hheld := h.set key (some (.entry payload time)) cost
  exact (ht.set h key (some (.entry payload time)) cost).wait hheld.toBalanced hheld.admissible

theorem Tracks.step (ht : Tracks c t) (h : Sound c) (op : Operation β) :
    Tracks (c.step op) (c.note t op) := by
  cases op with
  | set key value cost => exact ht.set h key value cost
  | get key contended => exact ht.get key contended
  | wait => exact ht.wait h.toBalanced h.admissible
  | delete key => exact ht.remove (h.toBalanced.newest_delete key)
  | clear => exact tracks_of_empty rfl rfl
  | close => exact tracks_of_empty rfl rfl
  | compute key now limit answer cost =>
    have hasked : Tracks (c.get key false).2 t := ht.get key false
    have hsound : Sound (c.get key false).2 := h.get key false
    unfold Cache.step note compute
    dsimp only
    rw [live?_eq]
    cases fresh? now limit (c.get key false).1 with
    | some payload => exact hasked
    | none =>
      cases answer with
      | none => exact hasked
      | some answer => exact hasked.keep hsound key answer.1 answer.2 cost

theorem Tracks.run (ht : Tracks c t) (h : Sound c) (ops : List (Operation β)) :
    Tracks (c.run ops) (c.written t ops) := by
  induction ops generalizing c t with
  | nil => exact ht
  | cons op ops ih => exact ih (ht.step h op) (h.step op)

/-- A key is answered with the value last accepted for it, and not removed since, or not at all;
residents are always answered. -/
theorem get_run {config : CacheConfig} {random : σ} (hmake : make config random = .ok c)
    (ops : List (Operation β)) (key : String) (contended : Bool) :
    (((c.run ops).get key contended).1 = none ∨
      ((c.run ops).get key contended).1 = (c.written [] ops).get? key) ∧
    ((c.run ops).resident key = true →
      ((c.run ops).get key contended).1.isSome = true) := by
  have hsound := sound_of_make hmake
  have hrun := hsound.run ops
  rw [get_fst hrun]
  constructor
  · split
    · exact (tracks_of_make hmake []).run hsound ops key
    · exact .inl rfl
  · intro hres
    rw [if_pos hres]
    have hlookup := hrun.toBalanced.isSome_lookup key
    rw [hres] at hlookup
    unfold newest
    rw [Option.isSome_or, hlookup, Bool.or_true]

def rewritten : List (Operation String) :=
  [.set "a" (some (.plain "x")) 5, .set "a" (some (.plain "y")) 7, .set "b" (some (.plain "z")) 2]

theorem get_rewritten : ∃ c : Cache String Congruential, make ⟨1, 10, 3⟩ ⟨1, []⟩ = .ok c ∧
    ((c.run rewritten).get "a" false).1 = some (.plain "y") := by
  refine ⟨_, rfl, ?_⟩
  obtain ⟨hanswer, hresident⟩ :=
    @get_run String Congruential _ _ ⟨1, 10, 3⟩ ⟨1, []⟩ rfl rewritten "a" false
  have hsome := hresident (by decide)
  rcases hanswer with hnone | hwritten
  · rw [hnone] at hsome
    exact Bool.noConfusion hsome
  · exact hwritten.trans (by decide)

end Census.Cache
