import Census.Proofs.Cache.Sound
import Mathlib.Data.List.Induction

/-! The budget of costs over whole runs. New keys are admitted within the budget, but the value of
a resident is replaced whatever its new cost, and then the budget may be overdrawn. The main
statement says exactly when a run stays within its budget: when every such overdraft is made good
by a later value of the same operation. -/
namespace Census.Cache

variable {β σ : Type}

/-- A new value of a resident costs more than the budget and the old value leave. -/
def Overdraws (c : Cache β σ) (p : PendingSet β) : Prop :=
  c.resident p.key = true ∧
    c.sizes.maxCost < c.usedCost + (p.cost - (c.costs.get? p.key).getD 0)

def Within (c : Cache β σ) : Prop :=
  c.usedCost ≤ c.sizes.maxCost

variable [RandomSource σ]

/-- Values in the order in which they are taken in, each with the cache that it meets. -/
def meetings : Cache β σ → List (PendingSet β) → List (Cache β σ × PendingSet β)
  | _, [] => []
  | c, p :: ps => (c, p) :: meetings (c.settle p) ps

def waitMeetings (c : Cache β σ) : List (Cache β σ × PendingSet β) :=
  meetings c.ready c.pending

/-- The meetings when a value is offered: at once with the value of a resident, or of all that
wait when the buffer is full. -/
def setMeetings (c : Cache β σ) (key : String) (value : Option (Stored β)) (cost : Int) :
    List (Cache β σ × PendingSet β) :=
  match value with
  | none => []
  | some v =>
    if c.closed = true ∨ c.sizes.maxCost < cost then []
    else if c.resident key then [(c, offered key v cost)]
    else if c.sizes.bufferItems ≤ c.pending.length + 1 then
      (c.hold (offered key v cost)).waitMeetings
    else []

def stepMeetings (c : Cache β σ) : Operation β → List (Cache β σ × PendingSet β)
  | .set key value cost => c.setMeetings key value cost
  | .wait => c.waitMeetings
  | .compute key now limit answer cost =>
    match c.live? key now limit, answer with
    | (none, c), some (payload, time) =>
      c.setMeetings key (some (.entry payload time)) cost ++
        (c.set key (some (.entry payload time)) cost).2.waitMeetings
    | _, _ => []
  | _ => []

/-- Whatever is overdrawn is made good by a later value. -/
def Repaid : List (Cache β σ × PendingSet β) → Prop
  | [] => True
  | m :: later =>
    (Overdraws m.1 m.2 → ∃ n ∈ later, Within (n.1.settle n.2)) ∧ Repaid later

/-- Meetings that lead from one cache to another, as far as the budget can tell. -/
inductive Leads : Cache β σ → List (Cache β σ × PendingSet β) → Cache β σ → Prop
  | done {c c' : Cache β σ} (hused : c'.usedCost = c.usedCost) (hsizes : c'.sizes = c.sizes) :
    Leads c [] c'
  | meet {c c' c'' : Cache β σ} {p : PendingSet β} {ms : List (Cache β σ × PendingSet β)}
      (hused : c'.usedCost = c.usedCost) (hsizes : c'.sizes = c.sizes) (hbalanced : Balanced c')
      (hp : Admissible c'.sizes p) (hrest : Leads (c'.settle p) ms c'') :
    Leads c ((c', p) :: ms) c''

section Meetings

variable {c c' c'' : Cache β σ} {p : PendingSet β}

theorem within_settle (h : Balanced c) (hp : Admissible c.sizes p) (hc : Within c)
    (hfits : ¬ Overdraws c p) : Within (c.settle p) := by
  unfold Within
  rw [(settle_frame c p).1]
  rcases settle_cases h hp.le_maxCost with ⟨hres, hsettle⟩ |
    ⟨-, gone, r, hcleared, ⟨hroom, hsettle⟩ | hsettle⟩
  · rw [hsettle]
    exact Int.not_lt.mp fun hlt => hfits ⟨hres, hlt⟩
  · rw [hsettle]
    exact hroom
  · rw [hsettle]
    exact Int.le_trans hcleared.used hc

theorem not_within_settle (h : Overdraws c p) : ¬ Within (c.settle p) := by
  obtain ⟨hres, hover⟩ := h
  unfold Within
  rw [(settle_frame c p).1]
  unfold settle
  rw [if_pos hres]
  exact Int.not_le.mpr hover

theorem Leads.congr_left {ms : List (Cache β σ × PendingSet β)} (h : Leads c ms c'')
    (hused : c.usedCost = c'.usedCost) (hsizes : c.sizes = c'.sizes) : Leads c' ms c'' := by
  cases h with
  | done hu hs => exact .done (hu.trans hused) (hs.trans hsizes)
  | meet hu hs hb hp hrest => exact .meet (hu.trans hused) (hs.trans hsizes) hb hp hrest

theorem Leads.append {ms ns : List (Cache β σ × PendingSet β)} (h : Leads c ms c')
    (hnext : Leads c' ns c'') : Leads c (ms ++ ns) c'' := by
  induction h with
  | done hused hsizes => exact hnext.congr_left hused hsizes
  | meet hu hs hb hp _ ih => exact .meet hu hs hb hp (ih hnext)

theorem Leads.sizes_eq {ms : List (Cache β σ × PendingSet β)} (h : Leads c ms c') :
    c'.sizes = c.sizes := by
  induction h with
  | done _ hsizes => exact hsizes
  | @meet c m last p ms _ hsizes _ _ _ ih => rw [ih, (settle_frame m p).1, hsizes]

/-- The state after some meetings is within the budget if a state on the way was, and every
overdraft since then is made good. -/
theorem within_iff_of_leads {ms : List (Cache β σ × PendingSet β)} (h : Leads c ms c') :
    Within c' ↔ (Within c ∨ ∃ n ∈ ms, Within (n.1.settle n.2)) ∧ Repaid ms := by
  induction h with
  | done hused hsizes =>
    unfold Within
    rw [hused, hsizes]
    simp [Repaid]
  | @meet c m last p ms hused hsizes hbalanced hp hrest ih =>
    have hsame : Within m ↔ Within c := by
      unfold Within
      rw [hused, hsizes]
    rw [ih]
    simp only [Repaid, List.mem_cons, exists_eq_or_imp]
    -- an overdraft leaves the budget overdrawn, so whatever ends within it comes later
    constructor
    · rintro ⟨hsome, hrepaid⟩
      refine ⟨.inr hsome, fun hover => ?_, hrepaid⟩
      exact hsome.resolve_left (not_within_settle hover)
    · rintro ⟨hstart | hsome, hover, hrepaid⟩
      · refine ⟨?_, hrepaid⟩
        by_cases hdraws : Overdraws m p
        · exact .inr (hover hdraws)
        · exact .inl (within_settle hbalanced hp (hsame.mpr hstart) hdraws)
      · exact ⟨hsome, hrepaid⟩

theorem leads_meetings (h : Balanced c) {ps : List (PendingSet β)}
    (hps : ∀ p ∈ ps, Admissible c.sizes p) : Leads c (meetings c ps) (ps.foldl settle c) := by
  induction ps generalizing c with
  | nil => exact .done rfl rfl
  | cons p ps ih =>
    have hp := hps p List.mem_cons_self
    refine .meet rfl rfl h hp (ih (h.settle hp) ?_)
    rw [(settle_frame c p).1]
    exact fun q hq => hps q (List.mem_cons_of_mem p hq)

theorem leads_wait (h : Balanced c) (hps : ∀ p ∈ c.pending, Admissible c.sizes p) :
    Leads c c.waitMeetings c.wait := by
  have hready : Leads c.ready (meetings c.ready c.pending) (c.pending.foldl settle c.ready) :=
    leads_meetings h.ready hps
  unfold waitMeetings
  rcases wait_cases c with ⟨hpending, hwait⟩ | hwait
  · rw [hwait, hpending]
    exact .done rfl rfl
  · rw [hwait]
    exact hready.congr_left rfl rfl

theorem leads_set (h : Sound c) (key : String) (value : Option (Stored β)) (cost : Int) :
    Leads c (c.setMeetings key value cost) (c.set key value cost).2 := by
  rcases set_cases c key value cost with ⟨hrefused, c', hset, hsame⟩ | ⟨v, rfl, hopen, hcost, hcases⟩
  · have hnone : c.setMeetings key value cost = [] := by
      cases value with
      | none => rfl
      | some v => exact if_pos (hrefused v rfl)
    rw [hnone, hset]
    rcases hsame with rfl | rfl
    · exact .done rfl rfl
    · exact .done rfl rfl
  · have hoffer := admissible_offered hcost key v
    have hrefused : ¬ (c.closed = true ∨ c.sizes.maxCost < cost) := by
      simp [hopen, hcost]
    unfold setMeetings
    dsimp only
    rw [if_neg hrefused]
    rcases hcases with ⟨hres, hset⟩ | ⟨hres, hroom, hset⟩ | ⟨hres, hfull, hset⟩
    · have hsettle : c.settle (offered key v cost) = c.update key (keyHash key) v (max cost 1) :=
        if_pos hres
      rw [if_pos hres, hset, ← hsettle]
      exact .meet rfl rfl h.toBalanced hoffer (.done rfl rfl)
    · rw [hres, if_neg Bool.false_ne_true, if_neg (Nat.not_le_of_lt hroom), hset]
      exact .done rfl rfl
    · rw [hres, if_neg Bool.false_ne_true, if_pos hfull, hset]
      have hheld : Balanced (c.hold (offered key v cost)) := h.toBalanced.congr rfl rfl rfl rfl
      exact (leads_wait hheld (h.admissible_hold hoffer)).congr_left rfl rfl

theorem leads_get (c : Cache β σ) (key : String) (contended : Bool) :
    Leads c [] (c.get key contended).2 := by
  obtain ⟨sketch, reads, metrics, hget⟩ := get_frame c key contended
  rw [hget]
  exact .done rfl rfl

/-- The meetings of an operation lead from its beginning to its end, but for what removals give
back. -/
theorem leads_step (h : Sound c) (op : Operation β) :
    Leads c (c.stepMeetings op) (c.step op) ∨
      c.stepMeetings op = [] ∧ (c.step op).usedCost ≤ c.usedCost ∧
        (c.step op).sizes = c.sizes := by
  cases op with
  | set key value cost => exact .inl (leads_set h key value cost)
  | wait => exact .inl (leads_wait h.toBalanced h.admissible)
  | get key contended => exact .inl (leads_get c key contended)
  | delete key =>
    have hused := (h.toBalanced.withdraw key).usedCost_remove_le key
    exact .inr ⟨rfl, hused, sizes_remove _ key⟩
  | clear => exact .inr ⟨rfl, h.usedCost_nonneg, rfl⟩
  | close => exact .inr ⟨rfl, h.usedCost_nonneg, rfl⟩
  | compute key now limit answer cost =>
    have hasked : Sound (c.get key false).2 := h.get key false
    have hget := leads_get c key false
    refine .inl ?_
    unfold stepMeetings step compute
    dsimp only
    rw [live?_eq]
    cases fresh? now limit (c.get key false).1 with
    | some payload => exact hget
    | none =>
      cases answer with
      | none => exact hget
      | some answer =>
        have hset := leads_set hasked key (some (.entry answer.1 answer.2)) cost
        have hheld := hasked.set key (some (.entry answer.1 answer.2)) cost
        exact hget.append (hset.append (leads_wait hheld.toBalanced hheld.admissible))

theorem within_step_iff (h : Sound c) (hc : Within c) (op : Operation β) :
    Within (c.step op) ↔ Repaid (c.stepMeetings op) := by
  rcases leads_step h op with hleads | ⟨hnone, hused, hsizes⟩
  · rw [within_iff_of_leads hleads]
    simp [hc]
  · rw [hnone]
    unfold Within
    rw [hsizes]
    exact ⟨fun _ => trivial, fun _ => Int.le_trans hused hc⟩

theorem sizes_step (h : Sound c) (op : Operation β) : (c.step op).sizes = c.sizes := by
  rcases leads_step h op with hleads | ⟨-, -, hsizes⟩
  · exact hleads.sizes_eq
  · exact hsizes

end Meetings

/-- A run stays within its budget exactly if every overdraft, by a new value for a resident, is
made good in the same operation. -/
theorem usedCost_le_iff_repaid {config : CacheConfig} {random : σ} {c : Cache β σ}
    (h : make config random = .ok c) (ops : List (Operation β)) :
    (∀ before, before <+: ops → (c.run before).usedCost ≤ config.maxCost) ↔
      ∀ before op, before ++ [op] <+: ops → Repaid ((c.run before).stepMeetings op) := by
  obtain ⟨sizes, sketch, random', hmax, hempty⟩ := eq_ofSketch_of_make h
  have hsound := sound_of_make h
  have hbudget : ∀ before, (c.run before).sizes.maxCost = config.maxCost := by
    intro before
    induction before using List.reverseRecOn with
    | nil =>
      rw [hempty]
      exact hmax
    | append_singleton before op ih =>
      rw [run_append_singleton, sizes_step (hsound.run before), ih]
  have hstart : Within c := by
    rw [hempty]
    exact Int.le_of_lt sizes.maxCost_pos
  have hwithin : ∀ before, Within (c.run before) ↔ (c.run before).usedCost ≤ config.maxCost := by
    intro before
    unfold Within
    rw [hbudget]
  constructor
  · intro hkept before op hprefix
    have hbefore := (hwithin before).mpr (hkept before ((List.prefix_append _ _).trans hprefix))
    have hafter := (hwithin _).mpr (hkept _ hprefix)
    rw [run_append_singleton] at hafter
    exact (within_step_iff (hsound.run before) hbefore op).mp hafter
  · intro hrepaid before
    rw [← hwithin]
    induction before using List.reverseRecOn with
    | nil => exact fun _ => hstart
    | append_singleton before op ih =>
      intro hprefix
      rw [run_append_singleton]
      have hbefore := ih ((List.prefix_append _ _).trans hprefix)
      exact (within_step_iff (hsound.run before) hbefore op).mpr (hrepaid before op hprefix)

def dearerValue : List (Operation String) :=
  [.set "a" (some (.plain "x")) 5, .set "b" (some (.plain "y")) 5,
    .set "a" (some (.plain "z")) 10]

theorem usedCost_of_dearerValue : ∃ c : Cache String Congruential,
    make ⟨1, 10, 1⟩ ⟨1, []⟩ = .ok c ∧ (c.run dearerValue).usedCost = 15 ∧
      ¬ ∀ before op, before ++ [op] <+: dearerValue →
        Repaid ((c.run before).stepMeetings op) := by
  refine ⟨_, rfl, by decide, fun hrepaid => ?_⟩
  have hkept := (@usedCost_le_iff_repaid String Congruential _ ⟨1, 10, 1⟩ ⟨1, []⟩ _ rfl
    dearerValue).mpr hrepaid dearerValue (List.prefix_refl dearerValue)
  exact absurd hkept (by decide)

end Census.Cache
