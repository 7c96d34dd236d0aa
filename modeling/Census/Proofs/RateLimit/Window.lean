import Census.Proofs.RateLimit.Store
import Mathlib.Data.List.Induction
import Mathlib.Order.Lattice

/-! Limits in a sliding window. A call is allowed exactly if fewer calls than the limit were
allowed for its identifier in the window before it, whatever other identifiers do and whichever
keys the store has dropped at the end of their lives. -/
namespace Census.RateLimiter

abbrev Outcome := Request × Option LimitAnswer

def log (bounds : String → Bound) : Session → List Request → List Outcome
  | _, [] => []
  | s, r :: rs => (r, (s.answer bounds r).1) :: log bounds (s.answer bounds r).2 rs

def after (bounds : String → Bound) (s : Session) (rs : List Request) : Session :=
  rs.foldl (fun s r => (s.answer bounds r).2) s

def unmarked (l : RateLimiter) : Session :=
  ⟨l, [], []⟩

def isAllowed (i : String) (o : Outcome) : Bool :=
  o.1.subject.name = i && (o.2.map (·.allowed)).getD false

def times (i : String) (l : List Outcome) : List Int :=
  (l.filter (isAllowed i)).map (·.1.now)

def recent (i : String) (since : Int) (l : List Outcome) : Nat :=
  (times i l).countP (since < ·)

/-- The answer that a request should get after others. -/
def verdict (bounds : String → Bound) (before : List Outcome) (r : Request) : LimitAnswer :=
  let bound := bounds r.subject.name
  let n : Int := recent r.subject.name (r.now - 1000 * bound.window) before
  if n < bound.limit then ⟨true, bound.limit - 1 - n⟩ else ⟨false, 0⟩

structure Exact (bounds : String → Bound) (r : Request) : Prop where
  now_nonneg : 0 ≤ r.now
  now_le : r.now ≤ 2 ^ 53
  limit_le : (bounds r.subject.name).limit ≤ 2 ^ 53
  window_pos : 1 ≤ (bounds r.subject.name).window
  life : LimitMarks.canLive .double (Number.nearestDouble (bounds r.subject.name).window * 2) = true

variable {bounds : String → Bound}

section Log

theorem log_append (bounds : String → Bound) (s : Session) (rs rs' : List Request) :
    log bounds s (rs ++ rs') = log bounds s rs ++ log bounds (after bounds s rs) rs' := by
  induction rs generalizing s with
  | nil => rfl
  | cons r rs ih => simp [log, after, ih]

theorem log_append_singleton (bounds : String → Bound) (s : Session) (rs : List Request)
    (r : Request) : log bounds s (rs ++ [r]) =
      log bounds s rs ++ [(r, ((after bounds s rs).answer bounds r).1)] := by
  rw [log_append]
  rfl

theorem after_append_singleton (bounds : String → Bound) (s : Session) (rs : List Request)
    (r : Request) : after bounds s (rs ++ [r]) = ((after bounds s rs).answer bounds r).2 := by
  simp [after]

theorem map_fst_log (bounds : String → Bound) (s : Session) (rs : List Request) :
    (log bounds s rs).map (·.1) = rs := by
  induction rs generalizing s with
  | nil => rfl
  | cons r rs ih => simp [log, ih]

theorem times_append_singleton (i : String) (l : List Outcome) (o : Outcome) :
    times i (l ++ [o]) = times i l ++ if isAllowed i o then [o.1.now] else [] := by
  unfold times
  rw [List.filter_append, List.map_append]
  cases h : isAllowed i o <;> simp [h]

theorem times_append_other {i : String} (l : List Outcome) {o : Outcome}
    (h : o.1.subject.name ≠ i) : times i (l ++ [o]) = times i l := by
  simp [times_append_singleton, isAllowed, h]

end Log

/-- The marks of a session tell of the allowed calls in a log: those that still count at a later
time are there, in their order. -/
structure Mirrors (bounds : String → Bound) (s : Session) (l : List Outcome) (now : Int) :
    Prop where
  marked : ∀ i t, now ≤ t →
    ((s.marks.marks (key i)).map (·.score)).filter (t - 1000 * (bounds i).window < ·) =
      (times i l).filter (t - 1000 * (bounds i).window < ·)
  scores : ∀ k, ∀ mark ∈ s.marks.marks k, 0 ≤ mark.score ∧ mark.score ≤ now
  members : ∀ k, ∀ mark ∈ s.marks.marks k,
    ∃ t n, n ≤ s.limiter.sequence ∧ mark.member = member t n
  /-- A key outlives the window of each of its marks. -/
  ends : ∀ i last, s.ends.get? (key i) = some last → ∀ mark ∈ s.marks.marks (key i),
    mark.score + 1000 * (bounds i).window ≤ last

section Mirrors

variable {s : Session} {l : List Outcome} {now : Int}

theorem mirrors_unmarked (bounds : String → Bound) (start : RateLimiter) (now : Int) :
    Mirrors bounds (unmarked start) [] now where
  marked := fun _ _ _ => rfl
  scores := nofun
  members := nofun
  ends := nofun

theorem Mirrors.mono (h : Mirrors bounds s l now) {later : Int} (hlater : now ≤ later) :
    Mirrors bounds s l later where
  marked := fun i t ht => h.marked i t (hlater.trans ht)
  scores := by
    intro k mark hmark
    have hscore := h.scores k mark hmark
    omega
  members := h.members
  ends := h.ends

theorem marks_swept (s : Session) (r : Request) (k : String) :
    (s.swept r).marks k = s.marks.marks k ∨
      (s.swept r).marks k = [] ∧ s.isOver r.now k = true := by
  unfold Session.swept LimitMarks.marks
  rw [Table.get?_filter s.marks (fun k => !(r.gone k && s.isOver r.now k)) k]
  cases hgone : r.gone k <;> cases hover : s.isOver r.now k <;> simp

theorem mem_of_mem_swept {r : Request} {k : String} {mark : LimitMark}
    (h : mark ∈ (s.swept r).marks k) : mark ∈ s.marks.marks k := by
  rcases marks_swept s r k with hkept | ⟨hgone, -⟩
  · rwa [hkept] at h
  · simp [hgone] at h

theorem Mirrors.swept (h : Mirrors bounds s l now) {r : Request} (hr : now ≤ r.now) (i : String)
    {t : Int} (ht : r.now ≤ t) :
    (((s.swept r).marks (key i)).map (·.score)).filter (t - 1000 * (bounds i).window < ·) =
      (times i l).filter (t - 1000 * (bounds i).window < ·) := by
  rw [← h.marked i t (hr.trans ht)]
  rcases marks_swept s r (key i) with hkept | ⟨hgone, hover⟩
  · rw [hkept]
  · rw [hgone, List.map_nil, List.filter_nil, eq_comm, List.filter_eq_nil_iff]
    intro score hscore
    obtain ⟨mark, hmark, rfl⟩ := List.mem_map.mp hscore
    unfold Session.isOver at hover
    split at hover
    · rename_i last hlast
      have hend := h.ends i last hlast mark hmark
      simp only [decide_eq_true_eq] at hover ⊢
      omega
    · simp at hover

theorem Mirrors.next (h : Mirrors bounds s l now) {r : Request} (hr : now ≤ r.now) {s' : Session}
    {a : Option LimitAnswer} {left : List LimitMark}
    (hmarks : s'.marks = (s.swept r).put (key r.subject.name) left)
    (hsequence : s.limiter.sequence ≤ s'.limiter.sequence)
    (hothers : ∀ i, i ≠ r.subject.name → s'.ends.get? (key i) = s.ends.get? (key i))
    (hleft : ∀ t, r.now ≤ t →
      (left.map (·.score)).filter (t - 1000 * (bounds r.subject.name).window < ·) =
        (times r.subject.name (l ++ [(r, a)])).filter
          (t - 1000 * (bounds r.subject.name).window < ·))
    (hscores : ∀ mark ∈ left, 0 ≤ mark.score ∧ mark.score ≤ r.now)
    (hmembers : ∀ mark ∈ left, ∃ t n, n ≤ s'.limiter.sequence ∧ mark.member = member t n)
    (hends : ∀ last, s'.ends.get? (key r.subject.name) = some last → ∀ mark ∈ left,
      mark.score + 1000 * (bounds r.subject.name).window ≤ last) :
    Mirrors bounds s' (l ++ [(r, a)]) r.now where
  marked := by
    intro i t ht
    rw [hmarks, LimitMarks.marks_put]
    by_cases hi : r.subject.name = i
    · subst hi
      rw [if_pos rfl, hleft t ht]
    · rw [if_neg fun heq => hi (key_inj heq), h.swept hr i ht, times_append_other l hi]
  scores := by
    intro k mark hmark
    rw [hmarks, LimitMarks.marks_put] at hmark
    split at hmark
    · exact hscores mark hmark
    · have hscore := h.scores k mark (mem_of_mem_swept hmark)
      omega
  members := by
    intro k mark hmark
    rw [hmarks, LimitMarks.marks_put] at hmark
    split at hmark
    · exact hmembers mark hmark
    · obtain ⟨t, n, hn, hmember⟩ := h.members k mark (mem_of_mem_swept hmark)
      exact ⟨t, n, hn.trans hsequence, hmember⟩
  ends := by
    intro i last hlast mark hmark
    rw [hmarks, LimitMarks.marks_put] at hmark
    by_cases hi : r.subject.name = i
    · subst hi
      rw [if_pos rfl] at hmark
      exact hends last hlast mark hmark
    · rw [if_neg fun heq => hi (key_inj heq)] at hmark
      rw [hothers i (Ne.symm hi)] at hlast
      exact h.ends i last hlast mark (mem_of_mem_swept hmark)

def kept (bounds : String → Bound) (s : Session) (r : Request) : List LimitMark :=
  ((s.swept r).marks (key r.subject.name)).filter
    fun mark => r.now - 1000 * (bounds r.subject.name).window < mark.score

theorem mem_of_mem_kept {r : Request} {mark : LimitMark} (h : mark ∈ kept bounds s r) :
    mark ∈ s.marks.marks (key r.subject.name) :=
  mem_of_mem_swept (List.mem_filter.mp h).1

theorem Mirrors.decide_eq (h : Mirrors bounds s l now) {r : Request} (hexact : Exact bounds r) :
    let bound := bounds r.subject.name
    let left := kept bounds s r
    let name := member r.now (s.limiter.sequence + 1)
    (s.swept r).decide .double (s.limiter.call r.subject bound.limit bound.window r.now).1 =
      if (left.length : Int) < bound.limit then
        (some ⟨true, bound.limit - 1 - left.length⟩,
          (s.swept r).put (key r.subject.name) (left ++ [⟨r.now, name⟩]))
      else (some ⟨false, 0⟩, (s.swept r).put (key r.subject.name) left) := by
  intro bound left name
  have hwindow : 1 ≤ bound.window := hexact.window_pos
  set c := (s.limiter.call r.subject bound.limit bound.window r.now).1
  have hold : ∀ mark ∈ (s.swept r).marks c.key, mark ∈ s.marks.marks (key r.subject.name) :=
    fun mark hmark => mem_of_mem_swept hmark
  have hfresh : ∀ mark ∈ (s.swept r).marks c.key, mark.member ≠ c.member := by
    intro mark hmark heq
    obtain ⟨t, n, hn, hmember⟩ := h.members _ mark (hold mark hmark)
    have hnumber := member_inj (hmember.symm.trans heq)
    omega
  have hstart : c.windowStart = r.now - 1000 * bound.window := by
    show r.now - bound.window * 1000 = _
    omega
  have hdecide := LimitMarks.decide_eq (m := s.swept r) (c := c) ⟨hexact.now_nonneg, hexact.now_le⟩
    (show c.windowStart ≤ r.now by omega) hexact.limit_le hwindow hexact.life
    (fun mark hmark => (h.scores _ mark (hold mark hmark)).1) hfresh
  rw [hstart] at hdecide
  exact hdecide

theorem Mirrors.length_kept (h : Mirrors bounds s l now) {r : Request} (hr : now ≤ r.now) :
    (kept bounds s r).length =
      recent r.subject.name (r.now - 1000 * (bounds r.subject.name).window) l := by
  have hswept := congrArg List.length (h.swept hr r.subject.name (le_refl r.now))
  rw [List.filter_map, List.length_map] at hswept
  rw [recent, List.countP_eq_length_filter, ← hswept]
  rfl

theorem Mirrors.filter_kept (h : Mirrors bounds s l now) {r : Request} (hr : now ≤ r.now) {t : Int}
    (ht : r.now ≤ t) :
    ((kept bounds s r).map (·.score)).filter (t - 1000 * (bounds r.subject.name).window < ·) =
      (times r.subject.name l).filter (t - 1000 * (bounds r.subject.name).window < ·) := by
  rw [← h.swept hr r.subject.name ht, List.filter_map, List.filter_map, kept, List.filter_filter]
  congr 1
  apply List.filter_congr
  intro mark _
  simp only [Function.comp_apply, Bool.and_eq_decide, decide_eq_true_eq, decide_eq_decide]
  omega

theorem Mirrors.scores_kept (h : Mirrors bounds s l now) {r : Request} (hr : now ≤ r.now) :
    ∀ mark ∈ kept bounds s r, 0 ≤ mark.score ∧ mark.score ≤ r.now := by
  intro mark hmark
  have hscore := h.scores _ mark (mem_of_mem_kept hmark)
  omega

theorem Mirrors.members_kept (h : Mirrors bounds s l now) (r : Request) :
    ∀ mark ∈ kept bounds s r, ∃ t n, n ≤ s.limiter.sequence + 1 ∧ mark.member = member t n := by
  intro mark hmark
  obtain ⟨t, n, hn, hmember⟩ := h.members _ mark (mem_of_mem_kept hmark)
  exact ⟨t, n, hn.trans (Nat.le_succ _), hmember⟩

def allow (bounds : String → Bound) (s : Session) (r : Request) : Session :=
  let number := s.limiter.sequence + 1
  { limiter := ⟨number⟩
    marks := (s.swept r).put (key r.subject.name)
      (kept bounds s r ++ [⟨r.now, member r.now number⟩])
    ends := s.ends.put (key r.subject.name)
      (r.now + 1000 * (Number.nearestDouble (bounds r.subject.name).window * 2)) }

def deny (bounds : String → Bound) (s : Session) (r : Request) : Session :=
  { s with
    limiter := ⟨s.limiter.sequence + 1⟩
    marks := (s.swept r).put (key r.subject.name) (kept bounds s r) }

theorem Mirrors.allow (h : Mirrors bounds s l now) {r : Request} (hr : now ≤ r.now)
    (hexact : Exact bounds r) {a : Option LimitAnswer}
    (ha : isAllowed r.subject.name (r, a) = true) :
    Mirrors bounds (allow bounds s r) (l ++ [(r, a)]) r.now := by
  refine h.next hr rfl (Nat.le_succ _) ?others ?left ?scores ?members ?ends
  case others =>
    intro i hi
    simp [RateLimiter.allow, Table.get?_put, key_inj.mt hi.symm]
  case left =>
    intro t ht
    rw [times_append_singleton, if_pos ha, List.map_append, List.filter_append,
      List.filter_append, h.filter_kept hr ht]
    rfl
  case scores =>
    intro mark hmark
    rcases List.mem_append.mp hmark with hold | hnew
    · exact h.scores_kept hr mark hold
    · rw [List.mem_singleton.mp hnew]
      exact ⟨hexact.now_nonneg, le_refl _⟩
  case members =>
    intro mark hmark
    rcases List.mem_append.mp hmark with hold | hnew
    · exact h.members_kept r mark hold
    · rw [List.mem_singleton.mp hnew]
      exact ⟨_, _, le_refl _, rfl⟩
  case ends =>
    intro last hlast mark hmark
    have hhalf :=
      Number.le_two_mul_nearestDouble (Int.lt_of_lt_of_le Int.zero_lt_one hexact.window_pos)
    have hscore : mark.score ≤ r.now := by
      rcases List.mem_append.mp hmark with hold | hnew
      · exact (h.scores_kept hr mark hold).2
      · rw [List.mem_singleton.mp hnew]
    simp only [RateLimiter.allow, Table.get?_put, if_true, Option.some.injEq] at hlast
    omega

theorem Mirrors.deny (h : Mirrors bounds s l now) {r : Request} (hr : now ≤ r.now)
    {a : Option LimitAnswer} (ha : isAllowed r.subject.name (r, a) = false) :
    Mirrors bounds (deny bounds s r) (l ++ [(r, a)]) r.now := by
  refine h.next hr rfl (Nat.le_succ _) (fun _ _ => rfl) ?left (h.scores_kept hr)
    (h.members_kept r) ?ends
  case left =>
    intro t ht
    simp [times_append_singleton, ha, h.filter_kept hr ht]
  case ends =>
    intro last hlast mark hmark
    exact h.ends _ last hlast mark (mem_of_mem_kept hmark)

/-- A call gets the answer that the log calls for, and leaves its mark exactly if it was allowed. -/
theorem Mirrors.answer (h : Mirrors bounds s l now) {r : Request} (hr : now ≤ r.now)
    (hexact : Exact bounds r) :
    (s.answer bounds r).1 = some (verdict bounds l r) ∧
      Mirrors bounds (s.answer bounds r).2 (l ++ [(r, (s.answer bounds r).1)]) r.now := by
  have hdecide := h.decide_eq hexact
  have hlength := h.length_kept hr
  by_cases hcount : ((kept bounds s r).length : Int) < (bounds r.subject.name).limit
  · have hanswer : s.answer bounds r =
        (some (verdict bounds l r), RateLimiter.allow bounds s r) := by
      simp only [hcount, if_true] at hdecide
      simp only [Session.answer, verdict, hdecide, ← hlength, hcount, if_true]
      rfl
    rw [hanswer]
    exact ⟨rfl, h.allow hr hexact (by simp [isAllowed, verdict, ← hlength, hcount])⟩
  · have hanswer : s.answer bounds r =
        (some (verdict bounds l r), RateLimiter.deny bounds s r) := by
      simp only [hcount, if_false] at hdecide
      simp only [Session.answer, verdict, hdecide, ← hlength, hcount, if_false]
      rfl
    rw [hanswer]
    exact ⟨rfl, h.deny hr (by simp [isAllowed, verdict, ← hlength, hcount])⟩

end Mirrors

section Runs

variable {rs : List Request}

/-- Requests that doubles hold, in the order of their times. -/
structure Orderly (bounds : String → Bound) (rs : List Request) : Prop where
  clock : rs.Pairwise (·.now ≤ ·.now)
  exact : ∀ r ∈ rs, Exact bounds r

theorem Orderly.sublist (h : Orderly bounds rs) {rs' : List Request} (hsub : rs'.Sublist rs) :
    Orderly bounds rs' where
  clock := h.clock.sublist hsub
  exact := fun r hr => h.exact r (hsub.subset hr)

theorem Orderly.le_last {r : Request} (h : Orderly bounds (rs ++ [r])) :
    ∀ r' ∈ rs, r'.now ≤ r.now :=
  fun r' hr' => (List.pairwise_append.mp h.clock).2.2 r' hr' r (List.mem_singleton_self r)

theorem Orderly.init {r : Request} (h : Orderly bounds (rs ++ [r])) : Orderly bounds rs :=
  h.sublist (List.sublist_append_left rs [r])

theorem Orderly.exact_last {r : Request} (h : Orderly bounds (rs ++ [r])) : Exact bounds r :=
  h.exact r (List.mem_append_right rs (List.mem_singleton_self r))

theorem mirrors_after (start : RateLimiter) (h : Orderly bounds rs) {now : Int}
    (hnow : ∀ r ∈ rs, r.now ≤ now) :
    Mirrors bounds (after bounds (unmarked start) rs) (log bounds (unmarked start) rs) now := by
  induction rs using List.reverseRecOn generalizing now with
  | nil => exact mirrors_unmarked bounds start now
  | append_singleton rs r ih =>
    have hmirrors := ih h.init h.le_last
    rw [after_append_singleton, log_append_singleton]
    exact (hmirrors.answer (le_refl _) h.exact_last).2.mono (hnow r (by simp))

theorem log_last (start : RateLimiter) {r : Request} (h : Orderly bounds (rs ++ [r])) :
    log bounds (unmarked start) (rs ++ [r]) =
      log bounds (unmarked start) rs ++
        [(r, some (verdict bounds (log bounds (unmarked start) rs) r))] := by
  have hmirrors := mirrors_after start h.init h.le_last
  rw [log_append_singleton, (hmirrors.answer (le_refl _) h.exact_last).1]

theorem answer_of_log_eq (start : RateLimiter) (h : Orderly bounds rs) {before rest : List Outcome}
    {o : Outcome} (hlog : log bounds (unmarked start) rs = before ++ o :: rest) :
    o.2 = some (verdict bounds before o.1) := by
  have hrs := congrArg (List.map (·.1)) hlog
  rw [map_fst_log, List.map_append, List.map_cons, List.append_cons] at hrs
  have hsub : (before.map (·.1) ++ [o.1]).Sublist rs := by
    rw [hrs]
    exact List.sublist_append_left _ _
  have hlast := log_last start (h.sublist hsub)
  rw [hrs, log_append, hlast, List.append_assoc] at hlog
  obtain ⟨hbefore, hrest⟩ := List.append_inj hlog (by
    have hlength := congrArg List.length (map_fst_log bounds (unmarked start) (before.map (·.1)))
    simpa using hlength)
  rw [hbefore] at hrest
  exact (congrArg (·.2) (List.cons.inj hrest).1).symm

theorem fewer_of_isAllowed {i : String} {l : List Outcome} {r : Request}
    (h : isAllowed i (r, some (verdict bounds l r)) = true) :
    r.subject.name = i ∧
      (recent r.subject.name (r.now - 1000 * (bounds r.subject.name).window) l : Int) <
        (bounds r.subject.name).limit := by
  simp only [isAllowed, verdict, Bool.and_eq_true, decide_eq_true_eq] at h
  obtain ⟨hname, hallowed⟩ := h
  refine ⟨hname, ?_⟩
  by_contra hcount
  simp [hcount] at hallowed

theorem countP_times_le (start : RateLimiter) (h : Orderly bounds rs) (i : String) (t : Int) :
    ((times i (log bounds (unmarked start) rs)).countP fun now =>
      t - 1000 * (bounds i).window < now ∧ now ≤ t : Nat) ≤ max (bounds i).limit 0 := by
  induction rs using List.reverseRecOn with
  | nil => simp [log, times]
  | append_singleton rs r ih =>
    have hrest := ih h.init
    rw [log_last start h, times_append_singleton]
    set l := log bounds (unmarked start) rs
    by_cases hallowed : isAllowed i (r, some (verdict bounds l r)) = true
    · rw [if_pos hallowed, List.countP_append, List.countP_singleton]
      by_cases hin : t - 1000 * (bounds i).window < r.now ∧ r.now ≤ t
      · -- what is in the window with the new call counted when it was allowed
        obtain ⟨rfl, hfewer⟩ := fewer_of_isAllowed hallowed
        have hcounted : ((times r.subject.name l).countP fun now =>
            t - 1000 * (bounds r.subject.name).window < now ∧ now ≤ t) ≤
              recent r.subject.name (r.now - 1000 * (bounds r.subject.name).window) l := by
          apply List.countP_mono_left
          intro now _ hnow
          simp only [decide_eq_true_eq] at hnow ⊢
          omega
        simp only [hin, decide_true, if_true, and_self]
        omega
      · simpa [hin] using hrest
    · rw [if_neg hallowed, List.append_nil]
      exact hrest

theorem times_filter (i : String) (l : List Outcome) :
    times i (l.filter (·.1.subject.name = i)) = times i l := by
  unfold times
  rw [List.filter_filter]
  congr 1
  apply List.filter_congr
  intro o _
  simpa [isAllowed] using fun hname _ => hname

theorem verdict_filter (bounds : String → Bound) (l : List Outcome) (r : Request) :
    verdict bounds (l.filter (·.1.subject.name = r.subject.name)) r = verdict bounds l r := by
  unfold verdict recent
  rw [times_filter]

theorem filter_log (start start' : RateLimiter) (h : Orderly bounds rs) (i : String) :
    (log bounds (unmarked start) rs).filter (·.1.subject.name = i) =
      log bounds (unmarked start') (rs.filter (·.subject.name = i)) := by
  induction rs using List.reverseRecOn with
  | nil => rfl
  | append_singleton rs r ih =>
    have hrest := ih h.init
    have hsub := h.sublist (List.filter_sublist (p := (·.subject.name = i)))
    rw [log_last start h, List.filter_append, hrest]
    rw [List.filter_append] at hsub ⊢
    by_cases hname : r.subject.name = i
    · subst hname
      simp only [List.filter_cons, List.filter_nil, decide_true, if_true] at hsub ⊢
      rw [log_last start' hsub, ← hrest, verdict_filter]
    · simp [hname]

/-- While doubles hold the numbers and the clock does not go back, each call gets the answer that
the calls allowed before it call for, no window holds more allowed calls than the limit, and an
identifier sees nothing of the others. -/
theorem log_exact (bounds : String → Bound) (start start' : RateLimiter) {rs : List Request}
    (h : Orderly bounds rs) :
    let l := log bounds (unmarked start) rs
    (∀ before o rest, l = before ++ o :: rest → o.2 = some (verdict bounds before o.1)) ∧
    (∀ i t, ((times i l).countP fun now =>
      t - 1000 * (bounds i).window < now ∧ now ≤ t : Nat) ≤ max (bounds i).limit 0) ∧
    ∀ i, l.filter (·.1.subject.name = i) =
      log bounds (unmarked start') (rs.filter (·.subject.name = i)) :=
  ⟨fun _ _ _ hlog => answer_of_log_eq start h hlog, countP_times_le start h,
    filter_log start start' h⟩

/-- Two calls of two in a second, one that is too many, and one for a client. -/
theorem log_burst :
    let bounds : String → Bound := fun i => if i = "global" then ⟨2, 1⟩ else ⟨5, 60⟩
    let rs : List Request := [⟨.global, 0, fun _ => true⟩, ⟨.client "x", 0, fun _ => true⟩,
      ⟨.global, 500, fun _ => true⟩, ⟨.global, 999, fun _ => true⟩, ⟨.global, 1000, fun _ => true⟩]
    Orderly bounds rs ∧
      (log bounds (unmarked {}) rs).map (·.2) = [some ⟨true, 1⟩, some ⟨true, 4⟩, some ⟨true, 0⟩,
        some ⟨false, 0⟩, some ⟨true, 0⟩] ∧
      (log bounds (unmarked {}) rs).filter (·.1.subject.name = "global") =
        log bounds (unmarked ⟨7⟩) (rs.filter (·.subject.name = "global")) := by
  intro bounds rs
  have horderly : Orderly bounds rs :=
    ⟨by decide +kernel, fun r hr => by
      simp only [rs, List.mem_cons, List.not_mem_nil, or_false] at hr
      rcases hr with rfl | rfl | rfl | rfl | rfl <;> constructor <;> decide +kernel⟩
  exact ⟨horderly, by decide +kernel, (log_exact bounds {} ⟨7⟩ horderly).2.2 "global"⟩

/-- Before time zero and beyond what doubles hold, the answer given and the answer due differ: a
mark before time zero never leaves its window, a limit loses its last digit, a long life cannot be
written, and late times move within their windows. -/
theorem log_inexact :
    let request (now : Int) : Request := ⟨.global, now, fun _ => false⟩
    let last (bound : Bound) (before : List Int) (now : Int) : Option LimitAnswer × LimitAnswer :=
      let s := unmarked {}
      let rs := before.map request
      (((after (fun _ => bound) s rs).answer (fun _ => bound) (request now)).1,
        verdict (fun _ => bound) (log (fun _ => bound) s rs) (request now))
    last ⟨1, 1⟩ [-5000] (-1000) = (some ⟨false, 0⟩, ⟨true, 0⟩) ∧
    last ⟨2 ^ 53 + 1, 1⟩ [] 0 = (some ⟨true, 2 ^ 53 - 1⟩, ⟨true, 2 ^ 53⟩) ∧
    last ⟨1, 10 ^ 17⟩ [] 0 = (none, ⟨true, 0⟩) ∧
    last ⟨1, 1⟩ [72057594037927968] 72057594037928960 = (some ⟨true, 0⟩, ⟨false, 0⟩) := by
  decide +kernel

end Runs

end Census.RateLimiter
