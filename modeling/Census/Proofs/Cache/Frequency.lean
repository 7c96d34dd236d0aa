import Census.Cache.Sketch
import Mathlib.Algebra.Group.Nat.Defs
import Mathlib.Data.List.Induction

/-! Estimates of how often a key was requested. Beside the sketch every key has a counter of its
own, which rises, is halved and is cleared at the same moments. A cell of the sketch is such a
counter for all keys that fall into it together, so the estimate of a key is never below its own
counter, and is that counter where one of its cells is its alone. -/
namespace Census

namespace SketchRow

def masked (width : Nat) (seed hash : UInt64) : Nat :=
  (((hash ^^^ seed) * 0x9E3779B97F4A7C15) >>> 32).toNat &&& (width - 1)

variable {width : Nat} (r : SketchRow width) (pos : 0 < width) (hash other : UInt64)

theorem getElem_set_self (cells : Vector Nat width) (f : Nat → Nat) (i j : Fin width) :
    (cells.set i (f cells[i]))[j] = if i = j then f cells[j] else cells[j] := by
  simp only [Fin.getElem_fin, Vector.getElem_set, Fin.val_inj]
  split
  · rename_i hsame
    rw [hsame]
  · rfl

theorem count_increment :
    (r.increment pos hash).count pos other =
      if cell pos r.seed hash = cell pos r.seed other then min top (r.count pos other + 1)
      else r.count pos other :=
  getElem_set_self r.cells (fun n => min top (n + 1)) _ _

theorem count_halve : r.halve.count pos other = r.count pos other / 2 := by
  simp [halve, count]

theorem count_clear : r.clear.count pos other = 0 := by
  simp [clear, count]

end SketchRow

namespace Sketch

inductive Operation
  | increment (hash : UInt64)
  | reset
  | clear

def step (k : Sketch) : Operation → Sketch
  | .increment hash => k.increment hash
  | .reset => k.reset
  | .clear => k.clear

def run (k : Sketch) (ops : List Operation) : Sketch :=
  ops.foldl step k

theorem run_append_singleton (k : Sketch) (ops : List Operation) (op : Operation) :
    k.run (ops ++ [op]) = (k.run ops).step op := by
  simp [run]

section Counter

/-- A count of requests, and how many requests of any key came since it was last halved or
cleared. -/
structure Counter where
  count : Nat
  since : Nat

def raised (counts : Bool) (count : Nat) : Nat :=
  if counts then min 15 (count + 1) else count

/-- A counter of the requests of some keys. Every so many requests of any key it is halved. -/
def Counter.step (resetAt : Nat) (counts : UInt64 → Bool) (t : Counter) : Operation → Counter
  | .increment hash =>
    if t.since + 1 = resetAt then ⟨raised (counts hash) t.count / 2, 0⟩
    else ⟨raised (counts hash) t.count, t.since + 1⟩
  | .reset => ⟨t.count / 2, 0⟩
  | .clear => ⟨0, 0⟩

def counter (resetAt : Nat) (counts : UInt64 → Bool) (ops : List Operation) : Counter :=
  ops.foldl (Counter.step resetAt counts) ⟨0, 0⟩

/-- The count that a sketch of a number of counters should have for one key. -/
def ideal (counters : Nat) (ops : List Operation) (hash : UInt64) : Nat :=
  (counter (max (counters * 10) 1) (· == hash) ops).count

def requested (ops : List Operation) : List UInt64 :=
  ops.foldl (fun hashes op => match op with
    | .increment hash => hashes ++ [hash]
    | .reset => hashes
    | .clear => []) []

variable {resetAt : Nat} {counts counts' : UInt64 → Bool} {ops : List Operation}

theorem raised_le {count : Nat} (h : count ≤ 15) (counts : Bool) : raised counts count ≤ 15 := by
  unfold raised
  split
  · exact Nat.min_le_left _ _
  · exact h

theorem raised_mono {b b' : Bool} {n n' : Nat} (hb : b = true → b' = true) (htop : n ≤ 15)
    (hn : n ≤ n') : raised b n ≤ raised b' n' := by
  unfold raised
  cases b' with
  | true =>
    rw [if_pos rfl]
    split <;> omega
  | false =>
    have hfalse : b = false := by simpa using hb
    simpa [hfalse] using hn

theorem counter_append_singleton (op : Operation) :
    counter resetAt counts (ops ++ [op]) = (counter resetAt counts ops).step resetAt counts op := by
  simp [counter]

theorem requested_append_singleton (op : Operation) :
    requested (ops ++ [op]) = match op with
      | .increment hash => requested ops ++ [hash]
      | .reset => requested ops
      | .clear => [] := by
  simp [requested]

theorem since_counter_lt (hpos : 0 < resetAt) (counts : UInt64 → Bool) (ops : List Operation) :
    (counter resetAt counts ops).since < resetAt := by
  induction ops using List.reverseRecOn with
  | nil => exact hpos
  | append_singleton ops op ih =>
    rw [counter_append_singleton]
    cases op with
    | increment hash =>
      unfold Counter.step
      dsimp only
      split
      · exact hpos
      · dsimp only
        omega
    | reset => exact hpos
    | clear => exact hpos

theorem count_counter_le (resetAt : Nat) (counts : UInt64 → Bool) (ops : List Operation) :
    (counter resetAt counts ops).count ≤ 15 := by
  induction ops using List.reverseRecOn with
  | nil => exact Nat.zero_le 15
  | append_singleton ops op ih =>
    rw [counter_append_singleton]
    cases op with
    | increment hash =>
      have hraised := raised_le ih (counts hash)
      unfold Counter.step
      dsimp only
      split
      · exact Nat.le_trans (Nat.div_le_self _ 2) hraised
      · exact hraised
    | reset => exact Nat.le_trans (Nat.div_le_self _ 2) ih
    | clear => exact Nat.zero_le 15

/-- A counter that counts more keys never shows less, and both are halved together. -/
theorem counter_mono (h : ∀ hash, counts hash = true → counts' hash = true) (ops : List Operation) :
    (counter resetAt counts ops).count ≤ (counter resetAt counts' ops).count ∧
      (counter resetAt counts ops).since = (counter resetAt counts' ops).since := by
  induction ops using List.reverseRecOn with
  | nil => exact ⟨Nat.le_refl 0, rfl⟩
  | append_singleton ops op ih =>
    obtain ⟨hcount, hsince⟩ := ih
    rw [counter_append_singleton, counter_append_singleton]
    cases op with
    | increment hash =>
      have hraised := raised_mono (h hash) (count_counter_le resetAt counts ops) hcount
      unfold Counter.step
      dsimp only
      rw [hsince]
      split
      · exact ⟨Nat.div_le_div_right hraised, rfl⟩
      · exact ⟨hraised, rfl⟩
    | reset => exact ⟨Nat.div_le_div_right hcount, rfl⟩
    | clear => exact ⟨Nat.le_refl 0, rfl⟩

theorem counter_congr (h : ∀ hash ∈ requested ops, counts hash = counts' hash) :
    counter resetAt counts ops = counter resetAt counts' ops := by
  induction ops using List.reverseRecOn with
  | nil => rfl
  | append_singleton ops op ih =>
    rw [requested_append_singleton] at h
    rw [counter_append_singleton, counter_append_singleton]
    cases op with
    | increment hash =>
      have hbefore := ih fun other hother => h other (List.mem_append_left _ hother)
      have hnow : counts hash = counts' hash := h hash (by simp)
      rw [hbefore]
      simp [Counter.step, hnow]
    | reset =>
      rw [ih h]
      rfl
    | clear => rfl

end Counter

section Cells

theorem exists_widthFor (counters : Nat) : ∃ n, widthFor counters = 2 ^ n := by
  unfold widthFor
  split
  · exact ⟨0, rfl⟩
  · exact ⟨_, rfl⟩

/-- Widths are powers of two, so a mask takes the remainder. -/
theorem cell_eq_masked {width counters : Nat} (h : width = widthFor counters) (pos : 0 < width)
    (seed hash : UInt64) :
    (SketchRow.cell pos seed hash : Nat) = SketchRow.masked (widthFor counters) seed hash := by
  obtain ⟨n, hn⟩ := exists_widthFor counters
  rw [hn] at h ⊢
  subst h
  exact (Nat.and_two_pow_sub_one_eq_mod _ n).symm

def seedAt (k : Sketch) (i : Fin 4) : UInt64 :=
  k.rows[i].seed

def countAt (k : Sketch) (i : Fin 4) (hash : UInt64) : Nat :=
  k.rows[i].count k.width_pos hash

def recount (k : Sketch) (change : SketchRow k.width → SketchRow k.width) (additions : Nat) :
    Sketch :=
  { k with rows := k.rows.map change, additions := additions }

theorem seedAt_recount (k : Sketch) (change : SketchRow k.width → SketchRow k.width)
    (additions : Nat) (i : Fin 4) :
    (k.recount change additions).seedAt i = (change k.rows[i]).seed := by
  change (k.rows.map change)[i].seed = _
  simp

theorem countAt_recount (k : Sketch) (change : SketchRow k.width → SketchRow k.width)
    (additions : Nat) (i : Fin 4) (hash : UInt64) :
    (k.recount change additions).countAt i hash = (change k.rows[i]).count k.width_pos hash := by
  change (k.rows.map change)[i].count k.width_pos hash = _
  simp

/-- A request raises one cell in each row; with the last of a number of requests all are halved. -/
theorem increment_eq (k : Sketch) (hash : UInt64) :
    k.increment hash =
      if k.resetAt ≤ k.additions + 1 then
        k.recount (fun r => (r.increment k.width_pos hash).halve) 0
      else k.recount (fun r => r.increment k.width_pos hash) (k.additions + 1) := by
  unfold increment reset recount
  dsimp only
  rw [Vector.map_map]
  rfl

def meets (counters : Nat) (seed hash other : UInt64) : Bool :=
  SketchRow.masked (widthFor counters) seed other == SketchRow.masked (widthFor counters) seed hash

/-- What a sketch shows after some operations: in each row the cell of a key is the counter of all
keys that fall into it. -/
structure Follows (counters : Nat) (seeds : Vector UInt64 4) (ops : List Operation) (k : Sketch) :
    Prop where
  width : k.width = widthFor counters
  resetAt : k.resetAt = max (counters * 10) 1
  seed : ∀ i, k.seedAt i = seeds[i]
  additions : ∀ counts, k.additions = (counter k.resetAt counts ops).since
  count : ∀ i hash,
    k.countAt i hash = (counter k.resetAt (meets counters seeds[i] hash) ops).count

variable {counters : Nat} {seeds : Vector UInt64 4} {ops : List Operation} {k : Sketch}

theorem rows_withSeeds (counters : Nat) (seeds : Vector UInt64 4) (i : Fin 4) :
    (withSeeds counters seeds).rows[i] = ⟨seeds[i], Vector.replicate (widthFor counters) 0⟩ := by
  unfold withSeeds
  exact Vector.getElem_map _ i.isLt

theorem follows_withSeeds (counters : Nat) (seeds : Vector UInt64 4) :
    Follows counters seeds [] (withSeeds counters seeds) where
  width := rfl
  resetAt := rfl
  seed := by
    intro i
    unfold seedAt
    rw [rows_withSeeds]
  additions := fun _ => rfl
  count := by
    intro i hash
    unfold countAt
    rw [rows_withSeeds]
    exact Vector.getElem_replicate _

theorem Follows.recount (h : Follows counters seeds ops k)
    {change : SketchRow k.width → SketchRow k.width} {additions : Nat} {op : Operation}
    (hseed : ∀ r, (change r).seed = r.seed)
    (hsince : ∀ counts, additions = (counter k.resetAt counts (ops ++ [op])).since)
    (hcount : ∀ (i : Fin 4) hash, (change k.rows[i]).count k.width_pos hash =
      (counter k.resetAt (meets counters seeds[i] hash) (ops ++ [op])).count) :
    Follows counters seeds (ops ++ [op]) (k.recount change additions) where
  width := h.width
  resetAt := h.resetAt
  seed := by
    intro i
    rw [seedAt_recount, hseed]
    exact h.seed i
  additions := hsince
  count := by
    intro i hash
    rw [countAt_recount]
    exact hcount i hash

theorem Follows.reset (h : Follows counters seeds ops k) :
    Follows counters seeds (ops ++ [.reset]) k.reset := by
  refine h.recount (fun _ => rfl) ?_ ?_
  · intro counts
    rw [counter_append_singleton]
    rfl
  · intro i hash
    rw [SketchRow.count_halve, counter_append_singleton]
    exact congrArg (· / 2) (h.count i hash)

theorem Follows.clear (h : Follows counters seeds ops k) :
    Follows counters seeds (ops ++ [.clear]) k.clear := by
  refine h.recount (fun _ => rfl) ?_ ?_
  · intro counts
    rw [counter_append_singleton]
    rfl
  · intro i hash
    rw [SketchRow.count_clear, counter_append_singleton]
    rfl

theorem Follows.count_increment (h : Follows counters seeds ops k) (i : Fin 4)
    (hash other : UInt64) :
    (k.rows[i].increment k.width_pos hash).count k.width_pos other =
      raised (meets counters seeds[i] other hash)
        (counter k.resetAt (meets counters seeds[i] other) ops).count := by
  have hseed : k.rows[i].seed = seeds[i] := h.seed i
  have hcell : SketchRow.cell k.width_pos seeds[i] hash =
      SketchRow.cell k.width_pos seeds[i] other ↔ meets counters seeds[i] other hash = true := by
    unfold meets
    rw [beq_iff_eq, ← cell_eq_masked h.width k.width_pos, ← cell_eq_masked h.width k.width_pos,
      Fin.val_inj]
  rw [SketchRow.count_increment, hseed, ← h.count]
  unfold raised
  simp only [hcell]
  rfl

/-- The number of requests since the last halving stays below the one that brings the next, so the
sketch and the counters are halved together. -/
theorem Follows.counter_increment (h : Follows counters seeds ops k) (hash : UInt64)
    (counts : UInt64 → Bool) :
    counter k.resetAt counts (ops ++ [.increment hash]) =
      if k.resetAt ≤ k.additions + 1 then
        ⟨raised (counts hash) (counter k.resetAt counts ops).count / 2, 0⟩
      else ⟨raised (counts hash) (counter k.resetAt counts ops).count, k.additions + 1⟩ := by
  have hpos : 0 < k.resetAt := by
    rw [h.resetAt]
    omega
  have hbelow := since_counter_lt hpos counts ops
  have hmoment : k.resetAt ≤ (counter k.resetAt counts ops).since + 1 ↔
      (counter k.resetAt counts ops).since + 1 = k.resetAt := by omega
  rw [counter_append_singleton, Counter.step, h.additions counts]
  simp only [hmoment]

theorem Follows.increment (h : Follows counters seeds ops k) (hash : UInt64) :
    Follows counters seeds (ops ++ [.increment hash]) (k.increment hash) := by
  rw [increment_eq]
  split
  · rename_i hfull
    refine h.recount (fun _ => rfl) ?_ ?_
    · intro counts
      rw [h.counter_increment, if_pos hfull]
    · intro i other
      rw [SketchRow.count_halve, h.count_increment, h.counter_increment, if_pos hfull]
  · rename_i hroom
    refine h.recount (fun _ => rfl) ?_ ?_
    · intro counts
      rw [h.counter_increment, if_neg hroom]
    · intro i other
      rw [h.count_increment, h.counter_increment, if_neg hroom]

theorem Follows.step (h : Follows counters seeds ops k) (op : Operation) :
    Follows counters seeds (ops ++ [op]) (k.step op) := by
  cases op with
  | increment hash => exact h.increment hash
  | reset => exact h.reset
  | clear => exact h.clear

theorem follows_run (counters : Nat) (seeds : Vector UInt64 4) (ops : List Operation) :
    Follows counters seeds ops ((withSeeds counters seeds).run ops) := by
  induction ops using List.reverseRecOn with
  | nil => exact follows_withSeeds counters seeds
  | append_singleton ops op ih =>
    rw [run_append_singleton]
    exact ih.step op

end Cells

section Estimate

theorem le_estimate_iff (k : Sketch) (hash : UInt64) (bound : Nat) :
    bound ≤ k.estimate hash ↔ ∀ i, bound ≤ k.countAt i hash := by
  unfold estimate
  rw [List.le_min_iff]
  constructor
  · intro h i
    apply h
    rw [Vector.mem_toList_iff]
    exact Vector.mem_map_of_mem (Vector.getElem_mem i.isLt)
  · intro h n hn
    obtain ⟨r, hr, rfl⟩ := Vector.mem_map.mp (Vector.mem_toList_iff.mp hn)
    obtain ⟨i, hi, rfl⟩ := Vector.getElem_of_mem hr
    exact h ⟨i, hi⟩

theorem estimate_le_countAt (k : Sketch) (hash : UInt64) (i : Fin 4) :
    k.estimate hash ≤ k.countAt i hash :=
  (k.le_estimate_iff hash _).mp (Nat.le_refl _) i

variable {counters : Nat} {seeds : Vector UInt64 4} {ops : List Operation} {k : Sketch}

/-- No cell counts beyond the top, for no counter does. -/
theorem Follows.estimate_le_top (h : Follows counters seeds ops k) (hash : UInt64) :
    k.estimate hash ≤ 15 := by
  refine Nat.le_trans (k.estimate_le_countAt hash 0) ?_
  rw [h.count]
  exact count_counter_le _ _ ops

theorem Follows.ideal_le_estimate (h : Follows counters seeds ops k) (hash : UInt64) :
    ideal counters ops hash ≤ k.estimate hash := by
  rw [le_estimate_iff]
  intro i
  rw [h.count, h.resetAt]
  refine (counter_mono ?_ ops).1
  intro other hother
  rw [eq_of_beq hother]
  exact beq_self_eq_true _

/-- A cell that no other key fell into is the counter of its key. -/
theorem Follows.estimate_le_ideal (h : Follows counters seeds ops k) {hash : UInt64} (i : Fin 4)
    (halone : ∀ other ∈ requested ops, other ≠ hash →
      SketchRow.masked (widthFor counters) seeds[i] other ≠
        SketchRow.masked (widthFor counters) seeds[i] hash) :
    k.estimate hash ≤ ideal counters ops hash := by
  refine Nat.le_trans (k.estimate_le_countAt hash i) ?_
  rw [h.count, h.resetAt, ideal]
  refine Nat.le_of_eq (congrArg Counter.count (counter_congr ?_))
  intro other hother
  by_cases hsame : other = hash
  · simp [hsame, meets]
  · rw [beq_eq_false_iff_ne.mpr hsame]
    exact beq_eq_false_iff_ne.mpr (halone other hother hsame)

end Estimate

/-- An estimate is never below the count that its key alone should have, nor above the top, and it
is that count if in one of the rows no other key that was requested since the last clearing falls
into the cell of the key. The cells that masks choose lie inside the rows. -/
theorem estimate_run (counters : Nat) (seeds : Vector UInt64 4) (ops : List Operation)
    (hash : UInt64) :
    ideal counters ops hash ≤ ((withSeeds counters seeds).run ops).estimate hash ∧
    ((withSeeds counters seeds).run ops).estimate hash ≤ 15 ∧
    ((∃ i : Fin 4, ∀ other ∈ requested ops, other ≠ hash →
        SketchRow.masked (widthFor counters) seeds[i] other ≠
          SketchRow.masked (widthFor counters) seeds[i] hash) →
      ((withSeeds counters seeds).run ops).estimate hash = ideal counters ops hash) ∧
    ∀ i : Fin 4,
      SketchRow.cell ((withSeeds counters seeds).run ops).width_pos
          (((withSeeds counters seeds).run ops).seedAt i) hash =
        SketchRow.masked (widthFor counters) seeds[i] hash ∧
      SketchRow.masked (widthFor counters) seeds[i] hash <
        ((withSeeds counters seeds).run ops).rows[i].cells.toArray.size := by
  have hrun := follows_run counters seeds ops
  refine ⟨hrun.ideal_le_estimate hash, hrun.estimate_le_top hash, ?_, ?_⟩
  · rintro ⟨i, halone⟩
    exact Nat.le_antisymm (hrun.estimate_le_ideal i halone) (hrun.ideal_le_estimate hash)
  · intro i
    have hmask := cell_eq_masked hrun.width ((withSeeds counters seeds).run ops).width_pos
      seeds[i] hash
    rw [hrun.seed i]
    refine ⟨hmask, ?_⟩
    rw [← hmask, Vector.size_toArray]
    exact (SketchRow.cell _ seeds[i] hash).isLt

/-- Three requests of one key and two of another that shares its first cell, a halving, and one
request more. -/
def crowded : List Operation :=
  [.increment 1, .increment 2, .increment 1, .increment 2, .increment 1, .reset, .increment 1]

theorem estimate_crowded :
    ((withSeeds 4 #v[1, 3, 5, 7]).run crowded).countAt 0 1 = 3 ∧
      ((withSeeds 4 #v[1, 3, 5, 7]).run crowded).estimate 1 = 2 := by
  have hrun := estimate_run 4 #v[1, 3, 5, 7] crowded 1
  refine ⟨by decide +kernel, (hrun.2.2.1 ⟨1, ?_⟩).trans (by decide)⟩
  intro other hother hne
  have htwo : other = 2 := by simpa [requested, crowded, hne] using hother
  rw [htwo]
  decide +kernel

end Sketch

end Census
