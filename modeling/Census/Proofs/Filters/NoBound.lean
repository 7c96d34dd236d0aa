import Census.Proofs.Filters.OneBound
import Census.Proofs.Time.Nearest

/-! Queries that give no bound of their window. Both bounds are rounded, each on its own; the window is
still in order, and as long as it was asked for up to less than one period. -/
namespace Census.Filters

open Time Number

/-- A window between two multiples of a step that ends next to the present, and whose length is that
asked for but for less than a step. -/
structure Fits (step asked now start stop : Int) : Prop where
  multiples : step ∣ start ∧ step ∣ stop
  ordered : start ≤ stop
  close : 2 * (stop - now).natAbs ≤ step
  length : (stop - start - asked).natAbs < step
  whole : step ∣ asked → stop - start = asked

theorem fits_of_around {step asked now start stop : Int} (hasked : 0 ≤ asked)
    (hstart : Around step (now - asked) start) (hstop : Around step now stop) :
    Fits step asked now start stop where
  multiples := ⟨hstart.multiple, hstop.multiple⟩
  ordered := hstart.mono hstop (by omega)
  close := by
    have hlow := hstop.low
    have hhigh := hstop.high
    omega
  length := by
    have hlow := hstart.low
    have hhigh := hstart.high
    have hlow' := hstop.low
    have hhigh' := hstop.high
    omega
  whole := by
    intro hdvd
    have hmoved := hstart.add hdvd
    rw [Int.sub_add_cancel] at hmoved
    have := hstop.unique hmoved
    omega

variable {settings : Settings} {now : Moment} {q : Selection}

theorem window_of_none (hnow : now.offset = some 0) (hstart : q.start = none)
    (hstop : q.stop = none) (hperiod : 0 < settings.roundPeriodSeconds)
    (hspan : Spannable settings.roundPeriodSeconds) (hcovered : Covered now.instant)
    (hcovered' : Covered (daysBefore settings now)) :
    window .exact settings now q =
      .ok (.atUtc _ (hcovered'.inRange_roundedInstant hperiod),
        .atUtc _ (hcovered.inRange_roundedInstant hperiod)) := by
  obtain ⟨m, hshift, hinstant, -⟩ := shift_of_inRange hnow hcovered'.inRange
  have hcovered'' : Covered m.instant := by rwa [hinstant]
  have hfirst := Moment.roundTo_eq_atUtc hperiod (Moment.hasDayBefore_of_covered hcovered'')
    (hcovered''.inRange_roundedInstant hperiod)
  have hlast := Moment.roundTo_eq_atUtc hperiod (Moment.hasDayBefore_of_covered hcovered)
    (hcovered.inRange_roundedInstant hperiod)
  rw [window_of_spannable hspan, hstart, hstop, hshift]
  simp only [bound, Bind.bind, Except.bind, hfirst, hlast, hinstant]
  rfl

/-- Rounding takes a moment of the years 1970 to 2500 to the nearest multiple of a period, whatever
clock shows it, and fails only for a period that is no span of time. A query without bounds gets a
window from it that is never refused. -/
theorem ofSelection_noBound :
    (∀ p : Int, 0 < p → Spannable p → RoundsToNearest p) ∧
    (∀ (m : Moment) (p : Int), p ≤ 0 → Spannable p → m.roundToSeconds .exact p = .ok m) ∧
    (∀ (m : Moment) (p : Int), ¬ Spannable p → ∃ e, m.roundToSeconds .exact p = .error e) ∧
    ∀ (settings : Settings) (now : Moment) (q : Selection), now.offset = some 0 →
      q.start = none → q.stop = none →
      0 < settings.roundPeriodSeconds → Spannable settings.roundPeriodSeconds →
      0 ≤ settings.defaultWindowDays →
      Covered now.instant → Covered (daysBefore settings now) →
      ∃ start stop : Moment, ofSelection .exact settings now q = .ok (ofWindow q start stop) ∧
        start.offset = some 0 ∧ stop.offset = some 0 ∧
        Fits (settings.roundPeriodSeconds * second) (settings.defaultWindowDays * day) now.instant
          start.instant stop.instant := by
  refine ⟨fun p => roundsToNearest, ?_, ?_, ?_⟩
  · intro m p hp hspan
    rw [Moment.roundToSeconds_of_spannable hspan]
    exact if_pos hp
  · intro m p
    exact Moment.roundToSeconds_of_not_spannable
  · intro settings now q hnow hstart hstop hperiod hspan hdays hcovered hcovered'
    have hwindow := window_of_none hnow hstart hstop hperiod hspan hcovered hcovered'
    have hasked : 0 ≤ settings.defaultWindowDays * day := Int.mul_nonneg hdays (by decide)
    have hfits := fits_of_around hasked (around_roundedInstant hperiod hcovered'.inRange)
      (around_roundedInstant hperiod hcovered.inRange)
    refine ⟨_, _, (decided_of_window hwindow).1 ?_, rfl, rfl, ?_⟩
    · simp only [Moment.instant_atUtc]
      exact hfits.ordered
    · simp only [Moment.instant_atUtc]
      exact hfits

/-- A hundred thousand seconds divide neither a day nor thirty of them. -/
theorem ofSelection_oddPeriod : RoundsToNearest 100000 ∧ ∃ start stop : Moment,
    ofSelection .exact { roundPeriodSeconds := 100000 } (march 730 (by decide))
      ⟨none, none, "Kenya", "", "", ""⟩ = .ok (ofWindow ⟨none, none, "Kenya", "", "", ""⟩ start stop) ∧
    Fits (100000 * second) (30 * day) (march 730 (by decide)).instant start.instant stop.instant := by
  have hcovered : Covered (march 730 (by decide)).instant := by decide +kernel
  have hcovered' : Covered (daysBefore { roundPeriodSeconds := 100000 } (march 730 (by decide))) := by
    decide +kernel
  have hspan : Spannable 100000 := by
    unfold Spannable
    decide
  obtain ⟨hrounds, -, -, hwindows⟩ := ofSelection_noBound
  obtain ⟨start, stop, hwindow, -, -, hfits⟩ := hwindows
    { roundPeriodSeconds := 100000 } (march 730 (by decide)) ⟨none, none, "Kenya", "", "", ""⟩
    rfl rfl rfl (by decide) hspan (by decide) hcovered hcovered'
  exact ⟨hrounds 100000 (by decide) hspan, start, stop, hwindow, hfits⟩

end Census.Filters
