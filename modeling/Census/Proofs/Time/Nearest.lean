import Census.Proofs.Time.Rounding

/-! Exact rounding. The rounded instant is the multiple of the period nearest to the instant; it is the
only multiple in the half-open interval of one period around the instant, from which all else follows. -/
namespace Census.Time

open Number

/-- The multiple of a step nearest to an instant, of two the later one. -/
structure Nearest (step micros r : Int) : Prop where
  multiple : step ∣ r
  nearest : ∀ s, step ∣ s → (r - micros).natAbs ≤ (s - micros).natAbs
  later : ∀ s, step ∣ s → (s - micros).natAbs = (r - micros).natAbs → s ≤ r

/-- A multiple at most half a step after the instant, or less than that before it. -/
structure Around (step micros r : Int) : Prop where
  multiple : step ∣ r
  low : 2 * micros < 2 * r + step
  high : 2 * r ≤ 2 * micros + step

namespace Around

variable {step x y r s : Int}

theorem eq_of_close (hr : step ∣ r) (hs : step ∣ s) (hlow : r - s < step) (hhigh : s - r < step) :
    r = s := by
  have hle : ∀ {a b : Int}, step ∣ a → step ∣ b → b - a < step → b ≤ a := by
    intro a b ha hb hlt
    by_contra hab
    have := Int.le_of_dvd (by omega) (Int.dvd_sub hb ha)
    omega
  exact Int.le_antisymm (hle hs hr hlow) (hle hr hs hhigh)

theorem nearest (h : Around step x r) : Nearest step x r where
  multiple := h.multiple
  nearest := by
    intro s hs
    obtain ⟨hr, hlow, hhigh⟩ := h
    by_contra hfar
    have heq : r = s := by
      apply eq_of_close hr hs <;> omega
    rw [heq] at hfar
    omega
  later := by
    intro s hs hsame
    obtain ⟨hr, hlow, hhigh⟩ := h
    by_contra hlater
    have heq : r = s := by
      apply eq_of_close hr hs <;> omega
    omega

theorem unique (hr : Around step x r) (hs : Around step x s) : r = s := by
  obtain ⟨hr, hlow, hhigh⟩ := hr
  obtain ⟨hs, hlow', hhigh'⟩ := hs
  apply eq_of_close hr hs <;> omega

theorem self (hstep : 0 < step) (h : step ∣ r) : Around step r r where
  multiple := h
  low := by omega
  high := by omega

theorem mono (hr : Around step x r) (hs : Around step y s) (hxy : x ≤ y) : r ≤ s := by
  obtain ⟨hr, hlow, hhigh⟩ := hr
  obtain ⟨hs, hlow', hhigh'⟩ := hs
  by_contra hsr
  have heq : r = s := by
    apply eq_of_close hr hs <;> omega
  omega

theorem add (h : Around step x r) {d : Int} (hd : step ∣ d) : Around step (x + d) (r + d) where
  multiple := Int.dvd_add h.multiple hd
  low := by
    have := h.low
    omega
  high := by
    have := h.high
    omega

theorem bounds (h : Around step x r) (hx : 0 ≤ x) : 0 ≤ r ∧ r ≤ 2 * x := by
  obtain ⟨hmultiple, hlow, hhigh⟩ := h
  have hzero : step ∣ 0 := Int.dvd_zero step
  constructor
  · by_contra hr
    have heq : r = 0 := by
      apply eq_of_close hmultiple hzero <;> omega
    omega
  · by_contra hr
    have heq : r = 0 := by
      apply eq_of_close hmultiple hzero <;> omega
    omega

end Around

theorem around_roundedInstant {p micros : Int} (hp : 0 < p) (h : InRange micros) :
    Around (p * second) micros (roundedInstant .exact p micros) where
  multiple := by
    rw [roundedInstant_of_pos hp, nearestMultiple, Int.mul_right_comm]
    exact Int.dvd_mul_right _ _
  low := lt_roundedInstant .exact hp h
  high := by
    have := roundedInstant_le .exact hp h
    simp only [slack] at this
    omega

/-- The instants of the years 1970 to 2500. -/
def Covered (micros : Int) : Prop :=
  0 ≤ micros ∧ micros < Date.toDay ⟨2501, 1, 1⟩ * day

instance (micros : Int) : Decidable (Covered micros) :=
  inferInstanceAs (Decidable (_ ∧ _))

theorem Covered.bounds {micros : Int} (h : Covered micros) : 0 ≤ micros ∧ micros < 193944 * day :=
  h

theorem Covered.inRange {micros : Int} (h : Covered micros) : InRange micros := by
  have := h.bounds
  unfold InRange firstReading lastReading day second at *
  omega

/-- Rounding goes beyond the years covered, but never beyond those that a clock can show. -/
theorem Covered.inRange_roundedInstant {p micros : Int} (h : Covered micros) (hp : 0 < p) :
    InRange (roundedInstant .exact p micros) := by
  have hcovered := h.bounds
  have hbounds := (around_roundedInstant hp h.inRange).bounds hcovered.1
  unfold InRange firstReading lastReading day second at *
  omega

namespace Moment

def atUtc (micros : Int) (h : InRange micros) : Moment :=
  ⟨micros, some 0, h, offset_lt_utc⟩

@[simp] theorem instant_atUtc {micros : Int} (h : InRange micros) :
    (atUtc micros h).instant = micros := by
  simp [atUtc, instant]

theorem utc?_eq_atUtc {micros : Int} (h : InRange micros) : utc? micros = some (atUtc micros h) := by
  have hshown : firstReading ≤ micros ∧ micros ≤ lastReading := h
  simp [utc?, make?, atUtc, hshown, day, second]

def roundToSeconds (precision : Precision) (m : Moment) (seconds : Int) : Except Failure Moment := do
  m.roundTo precision (wholeSeconds (← span (seconds * second)))

variable {precision : Precision} {m : Moment} {p : Int}

theorem roundToSeconds_of_spannable (h : Spannable p) :
    m.roundToSeconds precision p = m.roundTo precision p := by
  unfold roundToSeconds
  rw [span_eq h]
  simp only [Bind.bind, Except.bind]
  rw [wholeSeconds_of_spannable h]

theorem roundToSeconds_of_not_spannable (h : ¬ Spannable p) :
    ∃ e, m.roundToSeconds precision p = .error e := by
  obtain ⟨e, he⟩ := exists_span_error h
  unfold roundToSeconds
  rw [he]
  exact ⟨e, rfl⟩

theorem hasDayBefore_of_covered (h : Covered m.instant) : m.hasDayBefore = true := by
  unfold hasDayBefore
  cases hoffset : m.offset with
  | some o => rfl
  | none =>
    have hinstant : m.instant = m.reading := by simp [instant, hoffset]
    have hbounds := h.bounds
    simp only [Option.isSome_none, Bool.false_or, decide_eq_true_eq]
    unfold firstReading day second at *
    omega

theorem roundTo_eq_atUtc (hp : 0 < p) (hday : m.hasDayBefore = true)
    (h : InRange (roundedInstant precision p m.instant)) :
    m.roundTo precision p = .ok (atUtc (roundedInstant precision p m.instant) h) := by
  have hutc := utc?_eq_atUtc h
  unfold roundTo
  rw [if_neg (by omega), hday]
  simp only [roundedInstant_of_pos hp] at hutc ⊢
  simp [hutc]

end Moment

section Periods

variable {p : Int}

structure RoundsToNearest (p : Int) : Prop where
  total : ∀ m : Moment, Covered m.instant → ∃ r, m.roundToSeconds .exact p = .ok r
  nearest : ∀ m r : Moment, Covered m.instant → m.roundToSeconds .exact p = .ok r →
    r.offset = some 0 ∧ Nearest (p * second) m.instant r.instant
  idempotent : ∀ m r : Moment, Covered m.instant → m.roundToSeconds .exact p = .ok r →
    r.roundToSeconds .exact p = .ok r
  monotone : ∀ m n r s : Moment, Covered m.instant → Covered n.instant →
    m.roundToSeconds .exact p = .ok r → n.roundToSeconds .exact p = .ok s →
    m.instant ≤ n.instant → r.instant ≤ s.instant
  offsetFree : ∀ m n : Moment, Covered m.instant → m.instant = n.instant →
    m.roundToSeconds .exact p = n.roundToSeconds .exact p

theorem Moment.roundToSeconds_of_covered (hp : 0 < p) (hspan : Spannable p) {m : Moment}
    (h : Covered m.instant) :
    m.roundToSeconds .exact p = .ok (atUtc _ (h.inRange_roundedInstant hp)) := by
  rw [roundToSeconds_of_spannable hspan]
  exact roundTo_eq_atUtc hp (hasDayBefore_of_covered h) _

theorem Moment.roundTo_atUtc (hp : 0 < p) {micros : Int} (hmultiple : p * second ∣ micros)
    (h : InRange micros) : (atUtc micros h).roundTo .exact p = .ok (atUtc micros h) := by
  have hstep : 0 < p * second := Int.mul_pos hp (by decide)
  have hkept : roundedInstant .exact p (atUtc micros h).instant = micros := by
    rw [instant_atUtc]
    exact (around_roundedInstant hp h).unique (.self hstep hmultiple)
  rw [roundTo_eq_atUtc hp rfl (by rwa [hkept])]
  simp only [hkept]

theorem roundsToNearest (hp : 0 < p) (hspan : Spannable p) : RoundsToNearest p := by
  have hround : ∀ {m r : Moment} (h : Covered m.instant), m.roundToSeconds .exact p = .ok r →
      r = .atUtc _ (h.inRange_roundedInstant hp) := by
    intro m r h hr
    rw [Moment.roundToSeconds_of_covered hp hspan h] at hr
    exact (Except.ok.inj hr).symm
  constructor
  case total =>
    intro m h
    exact ⟨_, Moment.roundToSeconds_of_covered hp hspan h⟩
  case nearest =>
    intro m r h hr
    rw [hround h hr, Moment.instant_atUtc]
    exact ⟨rfl, (around_roundedInstant hp h.inRange).nearest⟩
  case idempotent =>
    intro m r h hr
    rw [hround h hr, Moment.roundToSeconds_of_spannable hspan]
    exact Moment.roundTo_atUtc hp (around_roundedInstant hp h.inRange).multiple _
  case monotone =>
    intro m n r s hm hn hr hs hle
    rw [hround hm hr, hround hn hs, Moment.instant_atUtc, Moment.instant_atUtc]
    exact (around_roundedInstant hp hm.inRange).mono (around_roundedInstant hp hn.inRange) hle
  case offsetFree =>
    intro m n h hsame
    have h' : Covered n.instant := by rwa [← hsame]
    rw [Moment.roundToSeconds_of_covered hp hspan h, Moment.roundToSeconds_of_covered hp hspan h']
    simp only [hsame]

end Periods

end Census.Time
