import Census.Random
import Census.Table
import Mathlib.Algebra.Ring.Int.Defs
import Mathlib.Data.List.Nodup
import Mathlib.Data.List.Perm.Subperm

/-! Sums over tables of costs, and what a sample of names can hold. The law of a removal needs that
no name stands twice. -/
namespace Census

namespace Table

variable {α : Type}

def total (t : Table Int) : Int :=
  (t.map (·.2)).sum

theorem total_put (t : Table Int) (name : String) (cost : Int) :
    (t.put name cost).total = t.total + (cost - (t.get? name).getD 0) := by
  induction t with
  | nil => simp [put, total, get?]
  | cons entry rest ih =>
    obtain ⟨other, b⟩ := entry
    by_cases h : other = name
    · simp only [put, get?, h, if_true, total, List.map_cons, List.sum_cons, Option.getD_some]
      omega
    · simp only [put, get?, h, if_false, total, List.map_cons, List.sum_cons] at ih ⊢
      rw [ih]
      omega

theorem remove_of_not_has {t : Table α} {name : String} (h : t.has name = false) :
    t.remove name = t := by
  unfold remove
  rw [List.filter_eq_self]
  intro entry hentry
  unfold has at h
  rw [List.any_eq_false] at h
  simpa using h entry hentry

theorem nodup_names_put {t : Table α} (h : t.names.Nodup) (name : String) (a : α) :
    (t.put name a).names.Nodup := by
  rw [names_put]
  split
  · exact h
  · rename_i hname
    rw [has_iff_mem_names] at hname
    rw [List.nodup_append]
    refine ⟨h, List.nodup_singleton name, ?_⟩
    intro x hx y hy hxy
    rw [List.mem_singleton] at hy
    exact hname (hy ▸ hxy ▸ hx)

theorem nodup_names_remove {t : Table α} (h : t.names.Nodup) (name : String) :
    (t.remove name).names.Nodup := by
  rw [names_remove]
  exact h.filter _

theorem has_put (t : Table α) (name other : String) (a : α) :
    (t.put name a).has other = (decide (name = other) || t.has other) := by
  rw [← isSome_get?, get?_put, ← isSome_get?]
  by_cases h : name = other <;> simp [h]

theorem has_remove (t : Table α) (name other : String) :
    (t.remove name).has other = (!decide (name = other) && t.has other) := by
  rw [← isSome_get?, get?_remove, ← isSome_get?]
  by_cases h : name = other <;> simp [h]

theorem get?_of_mem {t : Table α} (h : t.names.Nodup) {entry : String × α} (hentry : entry ∈ t) :
    t.get? entry.1 = some entry.2 := by
  induction t with
  | nil => simp at hentry
  | cons other rest ih =>
    obtain ⟨habsent, hrest⟩ := List.nodup_cons.mp h
    rcases List.mem_cons.mp hentry with rfl | hentry
    · simp [get?]
    · have hname : other.1 ≠ entry.1 := by
        intro heq
        apply habsent
        exact List.mem_map.mpr ⟨entry, hentry, heq.symm⟩
      simp [get?, hname, ih hrest hentry]

theorem eq_nil_of_not_mem_names {t : Table α} (h : ∀ name, name ∉ t.names) : t = [] := by
  cases t with
  | nil => rfl
  | cons entry rest => exact absurd (by simp [names]) (h entry.1)

theorem remove_of_mem_names {t : Table Int} (h : t.names.Nodup) {name : String} {cost : Int}
    (hcost : t.get? name = some cost) :
    (t.remove name).total = t.total - cost ∧ (t.remove name).length + 1 = t.length := by
  induction t with
  | nil => simp [get?] at hcost
  | cons entry rest ih =>
    obtain ⟨other, b⟩ := entry
    have hrest : (names rest).Nodup := (List.nodup_cons.mp h).2
    by_cases hname : other = name
    · have habsent : has rest name = false := by
        rw [← Bool.not_eq_true, has_iff_mem_names]
        exact hname ▸ (List.nodup_cons.mp h).1
      have hb : b = cost := by simpa [get?, hname] using hcost
      have hremove : remove ((other, b) :: rest) name = rest := by
        rw [← remove_of_not_has habsent]
        simp [remove, hname]
      rw [hremove]
      refine ⟨?_, rfl⟩
      simp only [total, List.map_cons, List.sum_cons, hb]
      omega
    · have hcost' : get? rest name = some cost := by simpa [get?, hname] using hcost
      obtain ⟨htotal, hlength⟩ := ih hrest hcost'
      have hremove : remove ((other, b) :: rest) name = (other, b) :: remove rest name := by
        simp [remove, hname]
      rw [hremove]
      constructor
      · unfold total at htotal ⊢
        rw [List.map_cons, List.sum_cons, List.map_cons, List.sum_cons, htotal]
        omega
      · simpa using hlength

theorem total_nonneg {t : Table Int} (h : t.names.Nodup)
    (hcosts : ∀ name cost, t.get? name = some cost → 0 ≤ cost) : 0 ≤ t.total := by
  induction t with
  | nil => exact Int.le_refl 0
  | cons entry rest ih =>
    obtain ⟨other, b⟩ := entry
    obtain ⟨habsent, hrest⟩ := List.nodup_cons.mp h
    have hb : 0 ≤ b := hcosts other b (by simp [get?])
    have htotal : 0 ≤ total rest := by
      refine ih hrest fun name cost hcost => hcosts name cost ?_
      have hname : other ≠ name := by
        rintro rfl
        apply habsent
        change other ∈ names rest
        rw [← has_iff_mem_names, ← isSome_get?, hcost]
        rfl
      simpa [get?, hname] using hcost
    unfold total at htotal ⊢
    rw [List.map_cons, List.sum_cons]
    exact Int.add_nonneg hb htotal

theorem total_le_total {t u : Table Int} (ht : t.names.Nodup) (hu : u.names.Nodup)
    (hnonneg : ∀ name bound, u.get? name = some bound → 0 ≤ bound)
    (h : ∀ name cost, t.get? name = some cost → ∃ bound, u.get? name = some bound ∧ cost ≤ bound) :
    t.total ≤ u.total := by
  induction t generalizing u with
  | nil => exact total_nonneg hu hnonneg
  | cons entry rest ih =>
    obtain ⟨name, cost⟩ := entry
    obtain ⟨habsent, hrest⟩ := List.nodup_cons.mp ht
    obtain ⟨bound, hbound, hle⟩ := h name cost (by simp [get?])
    -- the bound of the first name is spent on it, and the other names keep theirs
    have hothers : total rest ≤ total (u.remove name) := by
      refine ih hrest (nodup_names_remove hu name) ?_ ?_
      · intro other bound hother
        rw [get?_remove] at hother
        split at hother
        · cases hother
        · exact hnonneg other bound hother
      · intro other cost hother
        have hne : name ≠ other := by
          rintro rfl
          apply habsent
          change name ∈ names rest
          rw [← has_iff_mem_names, ← isSome_get?, hother]
          rfl
        rw [get?_remove, if_neg hne]
        exact h other cost (by simpa [get?, hne] using hother)
    rw [(remove_of_mem_names hu hbound).1] at hothers
    unfold total at hothers ⊢
    rw [List.map_cons, List.sum_cons]
    omega

theorem get?_map {β : Type} (t : Table α) (f : α → β) (name : String) :
    get? (t.map fun entry => (entry.1, f entry.2)) name = (t.get? name).map f := by
  induction t with
  | nil => rfl
  | cons entry rest ih =>
    simp only [List.map_cons, get?, ih]
    split <;> rfl

end Table

namespace RandomSource

variable {σ α : Type} [RandomSource σ]

theorem perm_set {xs : List α} {i : Nat} {y : α} (h : xs[i]? = some y) (x : α) :
    List.Perm (y :: xs.set i x) (x :: xs) := by
  induction xs generalizing i with
  | nil => simp at h
  | cons z zs ih =>
    cases i with
    | zero =>
      rw [List.getElem?_cons_zero, Option.some.injEq] at h
      rw [h]
      exact .swap x y zs
    | succ i =>
      rw [List.getElem?_cons_succ] at h
      exact (List.Perm.swap z y _).trans (((ih h).cons z).trans (.swap x z zs))

theorem perm_takeAt (x : α) (xs : List α) (i : Nat) :
    List.Perm ((takeAt x xs i).1 :: (takeAt x xs i).2) (x :: xs) := by
  cases i with
  | zero => exact .refl _
  | succ i =>
    unfold takeAt
    dsimp only
    cases hget : xs[i]? with
    | none => exact .refl _
    | some y => exact perm_set hget x

theorem subperm_sample (k : Nat) (xs : List α) (s : σ) : List.Subperm (sample k xs s).1 xs := by
  induction k generalizing xs s with
  | zero => exact List.nil_subperm
  | succ k ih =>
    cases xs with
    | nil => exact List.nil_subperm
    | cons x xs =>
      have hrest := ih (takeAt x xs (((word s).1 >>> 33).toNat % (xs.length + 1))).2 (word s).2
      exact ((List.subperm_cons _).mpr hrest).trans (perm_takeAt x xs _).subperm

theorem length_sample (k : Nat) (xs : List α) (s : σ) :
    (sample k xs s).1.length = min k xs.length := by
  induction k generalizing xs s with
  | zero => simp [sample]
  | succ k ih =>
    cases xs with
    | nil => simp [sample]
    | cons x xs =>
      have hrest := (perm_takeAt x xs (((word s).1 >>> 33).toNat % (xs.length + 1))).length_eq
      simp only [List.length_cons, Nat.add_right_cancel_iff] at hrest
      simp only [sample, List.length_cons, ih, hrest]
      omega

end RandomSource

end Census
