import Census.Failure.Basic
import Census.Failure.Search
import Mathlib.Data.List.Nodup
import Mathlib.Data.List.Perm.Subperm
import Mathlib.Logic.Relation

/-! The search for a cause finds the first failure of its kind along the links, and it finds none
only where the links lead to none. No failure is looked at twice, so the search ends also where the
links run in a circle, whether it began on the circle or was led into it. -/
namespace Census

open Relation

namespace FailureKind

def Under (k other : FailureKind) : Prop :=
  ReflTransGen (fun k p => k.parent? = some p) k other

theorem under_of_mem_climb {steps : Nat} {k other : FailureKind} (h : other ∈ climb steps k) :
    Under k other := by
  induction steps generalizing k with
  | zero =>
    rw [List.mem_singleton.mp h]
    exact .refl
  | succ steps ih =>
    rw [climb] at h
    rcases List.mem_cons.mp h with rfl | h
    · exact .refl
    · cases hparent : k.parent? with
      | none => simp [hparent] at h
      | some p =>
        rw [hparent] at h
        exact .head hparent (ih h)

theorem isA_iff_under {k other : FailureKind} : k.isA other = true ↔ Under k other := by
  unfold isA
  rw [List.contains_iff_mem]
  constructor
  · exact under_of_mem_climb
  · intro h
    induction h using ReflTransGen.head_induction_on with
    | refl => exact List.mem_cons_self
    | head hparent _ ih =>
      rw [lineage_of_parent hparent]
      exact List.mem_cons_of_mem _ ih

end FailureKind

namespace FailureNode

variable {nodes : Array FailureNode} {wanted : Nat → Prop} {start i : Nat}

def cause? (nodes : Array FailureNode) (i : Nat) : Option Nat :=
  nodes[i]?.bind cause

theorem cause?_of_getElem? {node : FailureNode} (h : nodes[i]? = some node) :
    cause? nodes i = node.cause := by
  rw [cause?, h, Option.bind_some]

/-- The failure that lies a number of links behind a start. -/
def behind (nodes : Array FailureNode) (start : Nat) : Nat → Option Nat
  | 0 => some start
  | n + 1 => (behind nodes start n).bind (cause? nodes)

def Reaches (nodes : Array FailureNode) (start i : Nat) : Prop :=
  ReflTransGen (fun i j => cause? nodes i = some j) start i

theorem reaches_of_behind {n : Nat} (h : behind nodes start n = some i) :
    Reaches nodes start i := by
  induction n generalizing i with
  | zero =>
    rw [← Option.some.inj h]
    exact .refl
  | succ n ih =>
    obtain ⟨j, hj, hcause⟩ := Option.bind_eq_some_iff.mp h
    exact .tail (ih hj) hcause

/-- The first failure of some that is met along the links, the start included. -/
def FirstMet (nodes : Array FailureNode) (wanted : Nat → Prop) (start i : Nat) : Prop :=
  ∃ n, behind nodes start n = some i ∧ wanted i ∧
    ∀ m < n, ∀ j, behind nodes start m = some j → ¬ wanted j

theorem FirstMet.unique {j : Nat} (hi : FirstMet nodes wanted start i)
    (hj : FirstMet nodes wanted start j) : i = j := by
  obtain ⟨n, hin, hi, hbefore⟩ := hi
  obtain ⟨m, hjm, hj, hbefore'⟩ := hj
  rcases Nat.lt_trichotomy n m with h | rfl | h
  · exact absurd hi (hbefore' n h i hin)
  · exact Option.some.inj (hin.symm.trans hjm)
  · exact absurd hj (hbefore m h j hjm)

/-- What a search finds that is both right and complete. -/
structure Finds (nodes : Array FailureNode) (wanted : Nat → Prop) (start : Nat)
    (found : Option Nat) : Prop where
  some_iff : ∀ i, found = some i ↔ FirstMet nodes wanted start i
  none_iff : found = none ↔ ∀ i, Reaches nodes start i → ¬ wanted i

theorem finds_some (h : FirstMet nodes wanted start i) : Finds nodes wanted start (some i) where
  some_iff j := ⟨fun hij => Option.some.inj hij ▸ h, fun hj => congrArg some (h.unique hj)⟩
  none_iff := by
    refine ⟨nofun, fun hnone => ?_⟩
    obtain ⟨n, hn, hi, -⟩ := h
    exact absurd hi (hnone i (reaches_of_behind hn))

theorem finds_none (h : ∀ i, Reaches nodes start i → ¬ wanted i) :
    Finds nodes wanted start none where
  some_iff i := by
    refine ⟨nofun, ?_⟩
    rintro ⟨n, hn, hi, -⟩
    exact absurd hi (h i (reaches_of_behind hn))
  none_iff := ⟨fun _ => h, fun _ => rfl⟩

def Passes (nodes : Array FailureNode) (test : FailureNode → Bool) (i : Nat) : Prop :=
  ∃ node, nodes[i]? = some node ∧ test node = true

def OfKind (nodes : Array FailureNode) (kind : FailureKind) (i : Nat) : Prop :=
  ∃ node, nodes[i]? = some node ∧ node.kind.Under kind

theorem passes_isA_iff {kind : FailureKind} :
    Passes nodes (fun node => node.kind.isA kind) i ↔ OfKind nodes kind i := by
  simp only [Passes, OfKind, FailureKind.isA_iff_under]

end FailureNode

namespace CauseSearch

open FailureNode

variable {nodes : Array FailureNode} {test : FailureNode → Bool} {first : Nat}
  {s next : CauseSearch}

/-- A search that has come along the links from a first failure: it has looked at all failures on
the way, once each, and none of them passed. -/
structure Trail (nodes : Array FailureNode) (test : FailureNode → Bool) (first : Nat)
    (s : CauseSearch) : Prop where
  current : behind nodes first s.seen.length = s.current
  mem_seen_iff : ∀ j, j ∈ s.seen ↔ ∃ m < s.seen.length, behind nodes first m = some j
  refused : ∀ j ∈ s.seen, ¬ Passes nodes test j
  nodup : s.seen.Nodup
  lt_size : ∀ j ∈ s.seen, j < nodes.size

theorem trail_start (nodes : Array FailureNode) (test : FailureNode → Bool) (first : Nat) :
    Trail nodes test first (start first) where
  current := rfl
  mem_seen_iff := by simp [start]
  refused := by simp [start]
  nodup := List.nodup_nil
  lt_size := by simp [start]

theorem Trail.turn (h : Trail nodes test first s) (hturn : s.turn nodes test = .inr next) :
    Trail nodes test first next := by
  obtain ⟨i, node, hcurrent, hseen, hnode, htest, rfl⟩ := turn_eq_inr hturn
  have hi : behind nodes first s.seen.length = some i := h.current.trans hcurrent
  exact {
    current := by
      rw [List.length_cons, behind, hi, Option.bind_some, cause?_of_getElem? hnode]
    mem_seen_iff := by
      intro j
      rw [List.mem_cons, List.length_cons, h.mem_seen_iff]
      constructor
      · rintro (rfl | ⟨m, hm, hj⟩)
        · exact ⟨s.seen.length, Nat.lt_succ_self _, hi⟩
        · exact ⟨m, Nat.lt_succ_of_lt hm, hj⟩
      · rintro ⟨m, hm, hj⟩
        rcases Nat.lt_succ_iff_lt_or_eq.mp hm with hm | rfl
        · exact .inr ⟨m, hm, hj⟩
        · exact .inl (Option.some.inj (hj.symm.trans hi))
    refused := by
      refine List.forall_mem_cons.mpr ⟨?_, h.refused⟩
      rintro ⟨other, hother, hpasses⟩
      rw [hnode] at hother
      rw [← Option.some.inj hother, htest] at hpasses
      cases hpasses
    nodup := List.nodup_cons.mpr ⟨hseen, h.nodup⟩
    lt_size := List.forall_mem_cons.mpr ⟨(Array.getElem?_eq_some_iff.mp hnode).1, h.lt_size⟩ }

theorem Trail.closed (h : Trail nodes test first s)
    (hend : ∀ i ∈ s.current, i ∈ s.seen ∨ nodes[i]? = none) {j : Nat}
    (hj : Reaches nodes first j) : j ∈ s.seen ∨ nodes[j]? = none := by
  -- a failure behind a number of links is seen, or is the one to look at
  have hnext : ∀ m j, m ≤ s.seen.length → behind nodes first m = some j →
      j ∈ s.seen ∨ nodes[j]? = none := by
    intro m j hm hj
    rcases Nat.lt_or_eq_of_le hm with hm | rfl
    · exact .inl ((h.mem_seen_iff j).mpr ⟨m, hm, hj⟩)
    · exact hend j (h.current.symm.trans hj)
  induction hj with
  | refl => exact hnext 0 first (Nat.zero_le _) rfl
  | tail _ hcause ih =>
    rcases ih with hseen | hgone
    · obtain ⟨m, hm, hi⟩ := (h.mem_seen_iff _).mp hseen
      apply hnext (m + 1) _ hm
      rw [behind, hi, Option.bind_some, hcause]
    · rw [cause?, hgone] at hcause
      cases hcause

theorem Trail.finds (h : Trail nodes test first s) :
    Finds nodes (Passes nodes test) first (s.found nodes test) := by
  -- by the turns of the search, each of which keeps the trail
  fun_induction found nodes test s with
  | case1 s found hturn =>
    rcases turn_cases nodes test s with ⟨hnone, hend⟩ | ⟨i, node, hcurrent, -, hnode, hfound⟩
    · obtain rfl : none = found := Sum.inl.inj (hnone.symm.trans hturn)
      apply finds_none
      intro j hj
      rcases h.closed hend hj with hseen | hgone
      · exact h.refused j hseen
      · rintro ⟨node, hnode, -⟩
        rw [hgone] at hnode
        cases hnode
    · rcases hfound with ⟨htest, hfound⟩ | ⟨-, hfound⟩
      · obtain rfl : some i = found := Sum.inl.inj (hfound.symm.trans hturn)
        apply finds_some
        refine ⟨s.seen.length, h.current.trans hcurrent, ⟨node, hnode, htest⟩, fun m hm j hj => ?_⟩
        exact h.refused j ((h.mem_seen_iff j).mpr ⟨m, hm, hj⟩)
      · cases hfound.symm.trans hturn
  | case2 s next hturn ih => exact ih (h.turn hturn)

theorem Trail.length_seen_le (h : Trail nodes test first s) : s.seen.length ≤ nodes.size := by
  have hsub : s.seen ⊆ List.range nodes.size := fun j hj => List.mem_range.mpr (h.lt_size j hj)
  simpa using (h.nodup.subperm hsub).length_le

def after (nodes : Array FailureNode) (test : FailureNode → Bool) :
    Nat → CauseSearch → Option CauseSearch
  | 0, s => some s
  | n + 1, s =>
    match s.turn nodes test with
    | .inl _ => none
    | .inr next => after nodes test n next

theorem Trail.after {n : Nat} (h : Trail nodes test first s)
    (hafter : after nodes test n s = some next) :
    Trail nodes test first next ∧ next.seen.length = s.seen.length + n := by
  induction n generalizing s with
  | zero =>
    obtain rfl : s = next := Option.some.inj hafter
    exact ⟨h, rfl⟩
  | succ n ih =>
    rw [CauseSearch.after] at hafter
    split at hafter
    · cases hafter
    · rename_i s' hturn
      obtain ⟨htrail, hlength⟩ := ih (h.turn hturn) hafter
      obtain ⟨i, node, -, -, -, -, rfl⟩ := turn_eq_inr hturn
      refine ⟨htrail, ?_⟩
      rw [hlength, List.length_cons, Nat.add_right_comm, Nat.add_assoc]

end CauseSearch

namespace Failure

open FailureNode

def line (f : Failure) : List Failure :=
  f :: f.causes

theorem getElem?_line_succ (f : Failure) (i : Nat) : f.line[i + 1]? = f.line[i]?.bind cause? := by
  induction i generalizing f with
  | zero =>
    rw [line, List.getElem?_cons_succ, List.getElem?_cons_zero, Option.bind_some, causes_eq]
    cases f.cause? <;> rfl
  | succ i ih =>
    rw [line, List.getElem?_cons_succ, List.getElem?_cons_succ, causes_eq]
    cases f.cause? with
    | none => rfl
    | some c => exact ih c

def nodes (f : Failure) : Array FailureNode :=
  (f.line.mapIdx fun i g => ⟨g.kind, g.message, g.cause?.map fun _ => i + 1⟩).toArray

theorem getElem?_nodes (f : Failure) (i : Nat) :
    f.nodes[i]? = f.line[i]?.map fun g => ⟨g.kind, g.message, g.cause?.map fun _ => i + 1⟩ := by
  simp [nodes]

theorem cause?_nodes (f : Failure) (i : Nat) :
    FailureNode.cause? f.nodes i = f.line[i + 1]?.map fun _ => i + 1 := by
  rw [FailureNode.cause?, getElem?_nodes, getElem?_line_succ]
  cases f.line[i]? <;> rfl

theorem passes_nodes_iff {f : Failure} {kind : FailureKind} {i : Nat} :
    Passes f.nodes (fun node => node.kind.isA kind) i ↔
      ∃ g, f.line[i]? = some g ∧ g.kind.isA kind = true := by
  simp [Passes, getElem?_nodes]

theorem behind_nodes (f : Failure) (n : Nat) :
    behind f.nodes 0 n = f.line[n]?.map fun _ => n := by
  induction n with
  | zero => rfl
  | succ n ih =>
    rw [behind, ih]
    cases hn : f.line[n]? with
    | none => rw [getElem?_line_succ, hn]; rfl
    | some g => exact cause?_nodes f n

theorem getElem?_of_finds {f : Failure} {kind : FailureKind} {found : Option Nat}
    (h : Finds f.nodes (Passes f.nodes fun node => node.kind.isA kind) 0 found) :
    found.bind (f.line[·]?) = f.line.find? (·.kind.isA kind) := by
  have hbehind : ∀ n, n < f.line.length → behind f.nodes 0 n = some n := fun n hn => by
    rw [behind_nodes, List.getElem?_eq_getElem hn, Option.map_some]
  cases found with
  | none =>
    have hnone := h.none_iff.mp rfl
    symm
    rw [Option.bind_none, List.find?_eq_none]
    intro g hg hkind
    obtain ⟨n, hn, rfl⟩ := List.getElem_of_mem hg
    apply hnone n (reaches_of_behind (hbehind n hn))
    exact passes_nodes_iff.mpr ⟨_, List.getElem?_eq_getElem hn, hkind⟩
  | some i =>
    obtain ⟨n, hn, hpasses, hbefore⟩ := (h.some_iff i).mp rfl
    obtain ⟨g, hg, hkind⟩ := passes_nodes_iff.mp hpasses
    obtain ⟨hi, rfl⟩ := List.getElem?_eq_some_iff.mp hg
    obtain rfl : n = i := by
      rw [behind_nodes] at hn
      obtain ⟨-, -, hni⟩ := Option.map_eq_some_iff.mp hn
      exact hni
    symm
    rw [Option.bind_some, hg, List.find?_eq_some_iff_getElem]
    refine ⟨hkind, n, hi, rfl, fun m hm => ?_⟩
    have hlt : m < f.line.length := Nat.lt_trans hm hi
    have hrefused := hbefore m hm m (hbehind m hlt)
    rw [passes_nodes_iff] at hrefused
    simpa [List.getElem?_eq_getElem hlt] using hrefused

end Failure

namespace FailureNode

/-- However the links run, a search finds the first failure along them that passes its test, and
finds none exactly if they lead to none; a search for a kind also takes the kinds that count as it.
It takes a turn for each failure at most. The search along the causes of a failure that stands
alone is a case of it. -/
theorem finds_nearest (nodes : Array FailureNode) (start : Nat) :
    (∀ test, Finds nodes (Passes nodes test) start ((CauseSearch.start start).found nodes test)) ∧
      (∀ kind, Finds nodes (OfKind nodes kind) start (find? nodes start kind)) ∧
      (∀ test n s, (CauseSearch.start start).after nodes test n = some s → n ≤ nodes.size) ∧
      ∀ (f : Failure) (kind : FailureKind),
        (find? f.nodes 0 kind).bind (f.line[·]?) = f.find? kind := by
  have htest : ∀ (nodes : Array FailureNode) (start : Nat) test,
      Finds nodes (Passes nodes test) start ((CauseSearch.start start).found nodes test) :=
    fun nodes start test => (CauseSearch.trail_start nodes test start).finds
  refine ⟨htest nodes start, fun kind => ?kind, fun test n s hafter => ?turns,
    fun f kind => ?line⟩
  case kind =>
    have hkind : Passes nodes (fun node => node.kind.isA kind) = OfKind nodes kind :=
      funext fun _ => propext passes_isA_iff
    rw [← hkind]
    exact htest nodes start _
  case turns =>
    obtain ⟨htrail, hlength⟩ := (CauseSearch.trail_start nodes test start).after hafter
    have hle := htrail.length_seen_le
    rw [hlength] at hle
    exact Nat.le_trans (Nat.le_add_left n _) hle
  case line => exact Failure.getElem?_of_finds (htest f.nodes 0 _)

def lasso : Array FailureNode :=
  #[⟨.reading, "gone", some 1⟩, ⟨.rollback, "twice", some 2⟩, ⟨.textEncoding, "odd", some 1⟩]

theorem reaches_lasso {i : Nat} (h : Reaches lasso 0 i) : i < 3 := by
  have hcause : ∀ i < 3, ∀ j, cause? lasso i = some j → j < 3 := by decide +kernel
  induction h with
  | refl => decide
  | tail _ hcause' ih => exact hcause _ ih _ hcause'

theorem finds_lasso :
    find? lasso 0 .saving = some 1 ∧ find? lasso 0 .value = some 2 ∧ find? lasso 0 .data = none := by
  have hfinds := (finds_nearest lasso 0).2.1
  have hkind : ∀ kind i, OfKind lasso kind i ↔ lasso[i]?.any (·.kind.isA kind) = true := by
    intro kind i
    rw [← passes_isA_iff, Passes]
    cases lasso[i]? <;> simp
  refine ⟨?saving, ?value, ?data⟩
  case saving =>
    refine ((hfinds .saving).some_iff 1).mpr ⟨1, rfl, (hkind _ _).mpr rfl, ?_⟩
    simp only [hkind]
    decide
  case value =>
    refine ((hfinds .value).some_iff 2).mpr ⟨2, rfl, (hkind _ _).mpr rfl, ?_⟩
    simp only [hkind]
    decide
  case data =>
    refine (hfinds .data).none_iff.mpr fun i hi => ?_
    have hnone : ∀ i < 3, ¬ lasso[i]?.any (·.kind.isA .data) = true := by decide
    rw [hkind]
    exact hnone i (reaches_lasso hi)

end FailureNode

end Census
