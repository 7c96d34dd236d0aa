import Census.Proofs.Filters.Window
import Census.Proofs.Time.Rounding

/-! Queries that give one bound of their window. The other one is rounded, so it may come to lie on
the wrong side of the one given although the present does not; it is then refused, and only then. -/
namespace Census.Filters

open Time Number

section Default

variable (precision : Precision) (settings : Settings) (now : Moment)

def defaultStop : Int :=
  roundedInstant precision settings.roundPeriodSeconds now.instant

def daysBefore : Int :=
  now.instant - settings.defaultWindowDays * day

def defaultStart : Int :=
  roundedInstant precision settings.roundPeriodSeconds (daysBefore settings now)

def HasDefaultStop : Prop :=
  Spannable settings.roundPeriodSeconds ∧ InRange (defaultStop precision settings now)

def HasDefaultStart : Prop :=
  Spannable settings.roundPeriodSeconds ∧ InRange (daysBefore settings now) ∧
    InRange (defaultStart precision settings now)

/-- A query with the window is accepted where its bounds are in order, and refused otherwise. -/
def Decided (q : Selection) (start stop : Moment) : Prop :=
  (start.instant ≤ stop.instant →
    ofSelection precision settings now q = .ok (ofWindow q start stop)) ∧
  (stop.instant < start.instant → ofSelection precision settings now q = .error .queryRange)

end Default

variable {precision : Precision} {settings : Settings} {now : Moment} {q : Selection}

theorem decided_of_window {start stop : Moment}
    (h : window precision settings now q = .ok (start, stop)) :
    Decided precision settings now q start stop := by
  unfold Decided
  rw [ofSelection_eq, h]
  exact ⟨fun horder => if_neg (Int.not_lt.mpr horder), fun horder => if_pos horder⟩

theorem fails_of_window (h : ∃ e, window precision settings now q = .error e) :
    ∃ e, ofSelection precision settings now q = .error e ∧ e.isA .own = false := by
  obtain ⟨e, he⟩ := h
  refine ⟨e, ?_, isA_own_of_window he⟩
  rw [ofSelection_eq, he]
  rfl

theorem window_of_spannable (h : Spannable settings.roundPeriodSeconds) :
    window precision settings now q = (do
      let start ← bound precision settings.roundPeriodSeconds q.start do
        now.shift (-(← span (settings.defaultWindowDays * day)))
      let stop ← bound precision settings.roundPeriodSeconds q.stop (.ok now)
      return (start, stop)) := by
  unfold window
  rw [span_eq h]
  simp only [Bind.bind, Except.bind]
  rw [wholeSeconds_of_spannable h]

theorem window_of_not_spannable (h : ¬ Spannable settings.roundPeriodSeconds) :
    ∃ e, window precision settings now q = .error e := by
  obtain ⟨e, he⟩ := exists_span_error h
  refine ⟨e, ?_⟩
  unfold window
  rw [he]
  rfl

section Start

variable {start : Moment}

theorem inRange_of_offset (hnow : now.offset = some 0) : InRange now.instant := by
  rw [instant_of_offset hnow]
  exact now.inRange

theorem window_of_start (hnow : now.offset = some 0) (hstart : q.start = some start)
    (hstop : q.stop = none) (h : HasDefaultStop precision settings now) :
    ∃ stop, stop.instant = defaultStop precision settings now ∧
      window precision settings now q = .ok (start, stop) := by
  obtain ⟨stop, hround, hinstant⟩ := roundTo_of_inRange hnow h.2
  refine ⟨stop, hinstant, ?_⟩
  rw [window_of_spannable h.1, hstart, hstop]
  simp only [bound, Bind.bind, Except.bind, hround]
  rfl

theorem exists_window_error_of_start (hnow : now.offset = some 0) (hstart : q.start = some start)
    (hstop : q.stop = none) (h : ¬ HasDefaultStop precision settings now) :
    ∃ e, window precision settings now q = .error e := by
  by_cases hspan : Spannable settings.roundPeriodSeconds
  · obtain ⟨e, hround⟩ := roundTo_of_not_inRange (fun hrange => h ⟨hspan, hrange⟩)
      (inRange_of_offset hnow)
    refine ⟨e, ?_⟩
    rw [window_of_spannable hspan, hstart, hstop]
    simp only [bound, Bind.bind, Except.bind, hround]
  · exact window_of_not_spannable hspan

end Start

section Stop

variable {stop : Moment}

theorem shift_of_inRange (hnow : now.offset = some 0) (h : InRange (daysBefore settings now)) :
    ∃ m, (do now.shift (-(← span (settings.defaultWindowDays * day)))) = .ok m ∧
      m.instant = daysBefore settings now ∧ m.offset = some 0 := by
  have hreading := instant_of_offset hnow
  have hspan : (settings.defaultWindowDays * day / day).natAbs ≤ 999999999 := by
    have hshown := inRange_of_offset hnow
    unfold InRange daysBefore firstReading lastReading day second at *
    omega
  obtain ⟨m, hm, hinstant, hoffset⟩ := utc?_of_inRange h
  refine ⟨m, ?_, hinstant, hoffset⟩
  have hmake : Moment.make? (now.reading + -(settings.defaultWindowDays * day)) now.offset =
      some m := by
    rw [hnow, ← hm, Moment.utc?, daysBefore, hreading, Int.sub_eq_add_neg]
  rw [span_eq hspan]
  simp only [Bind.bind, Except.bind, Moment.shift, hmake]

theorem exists_shift_error (hnow : now.offset = some 0) (h : ¬ InRange (daysBefore settings now)) :
    ∃ e, (do now.shift (-(← span (settings.defaultWindowDays * day)))) = .error e := by
  have hreading := instant_of_offset hnow
  by_cases hspan : (settings.defaultWindowDays * day / day).natAbs ≤ 999999999
  · have hmake : Moment.make? (now.reading + -(settings.defaultWindowDays * day)) now.offset =
        none := by
      rw [hnow, ← Int.sub_eq_add_neg, ← hreading]
      exact utc?_of_not_inRange h
    rw [span_eq hspan]
    simp only [Bind.bind, Except.bind, Moment.shift, hmake]
    exact ⟨_, rfl⟩
  · obtain ⟨e, he⟩ := exists_span_error hspan
    rw [he]
    exact ⟨e, rfl⟩

theorem window_of_stop (hnow : now.offset = some 0) (hstart : q.start = none)
    (hstop : q.stop = some stop) (h : HasDefaultStart precision settings now) :
    ∃ start, start.instant = defaultStart precision settings now ∧
      window precision settings now q = .ok (start, stop) := by
  obtain ⟨hspan, hshift, hround⟩ := h
  obtain ⟨m, hm, hinstant, hoffset⟩ := shift_of_inRange hnow hshift
  unfold defaultStart at hround
  rw [← hinstant] at hround
  obtain ⟨start, hstarted, hrounded⟩ := roundTo_of_inRange hoffset hround
  refine ⟨start, by rw [hrounded, hinstant]; rfl, ?_⟩
  rw [window_of_spannable hspan, hstart, hstop, hm]
  simp only [bound, Bind.bind, Except.bind, hstarted]
  rfl

theorem exists_window_error_of_stop (hnow : now.offset = some 0) (hstart : q.start = none)
    (hstop : q.stop = some stop) (h : ¬ HasDefaultStart precision settings now) :
    ∃ e, window precision settings now q = .error e := by
  by_cases hspan : Spannable settings.roundPeriodSeconds
  · rw [window_of_spannable hspan, hstart, hstop]
    by_cases hshift : InRange (daysBefore settings now)
    · obtain ⟨m, hm, hinstant, hoffset⟩ := shift_of_inRange hnow hshift
      have hrange : ¬ InRange (roundedInstant precision settings.roundPeriodSeconds m.instant) := by
        rw [hinstant]
        exact fun hrange => h ⟨hspan, hshift, hrange⟩
      obtain ⟨e, hround⟩ := roundTo_of_not_inRange hrange (hinstant ▸ hshift)
      rw [hm]
      simp only [bound, Bind.bind, Except.bind, hround]
      exact ⟨e, rfl⟩
    · obtain ⟨e, he⟩ := exists_shift_error hnow hshift
      rw [he]
      exact ⟨e, rfl⟩
  · exact window_of_not_spannable hspan

end Stop

/-- A query that gives one bound is decided by the order of that bound and the rounded default of
the other one, whenever the default can be computed; otherwise it fails, but not as a refusal. A
first bound that is not after the present is accepted where the present is not rounded back, or lies
half a period ahead. A last bound that is not before the window is accepted where the beginning of
the window is not rounded forward, or lies half a period before it; where instants are read as
doubles, half a second may be missing. -/
theorem ofSelection_oneBound (precision : Precision) (settings : Settings) (q : Selection)
    (hnow : now.offset = some 0) :
    (∀ start, q.start = some start → q.stop = none →
      (HasDefaultStop precision settings now →
        ∃ stop, stop.instant = defaultStop precision settings now ∧
          Decided precision settings now q start stop ∧
          (start.instant ≤ now.instant →
            (now.instant ≤ stop.instant ∨
              2 * start.instant + settings.roundPeriodSeconds * second ≤ 2 * now.instant) →
            ofSelection precision settings now q = .ok (ofWindow q start stop))) ∧
      (¬ HasDefaultStop precision settings now →
        ∃ e, ofSelection precision settings now q = .error e ∧ e.isA .own = false)) ∧
    (∀ stop, q.start = none → q.stop = some stop →
      (HasDefaultStart precision settings now →
        ∃ start, start.instant = defaultStart precision settings now ∧
          Decided precision settings now q start stop ∧
          (daysBefore settings now ≤ stop.instant →
            (start.instant ≤ daysBefore settings now ∨
              2 * daysBefore settings now + settings.roundPeriodSeconds * second +
                slack precision ≤ 2 * stop.instant) →
            ofSelection precision settings now q = .ok (ofWindow q start stop))) ∧
      (¬ HasDefaultStart precision settings now →
        ∃ e, ofSelection precision settings now q = .error e ∧ e.isA .own = false)) := by
  refine ⟨fun start hstart hstop => ⟨fun h => ?_, fun h => ?_⟩,
    fun stop hstart hstop => ⟨fun h => ?_, fun h => ?_⟩⟩
  · obtain ⟨stop, hinstant, hwindow⟩ := window_of_start hnow hstart hstop h
    have hdecided := decided_of_window hwindow
    refine ⟨stop, hinstant, hdecided, fun hpast hroom => hdecided.1 ?_⟩
    rcases hroom with hahead | hroom
    · exact Int.le_trans hpast hahead
    · rw [hinstant]
      unfold defaultStop
      by_cases hp : settings.roundPeriodSeconds ≤ 0
      · rw [roundedInstant_of_nonpos hp]
        exact hpast
      · have hnear := lt_roundedInstant precision (by omega : 0 < settings.roundPeriodSeconds)
          (inRange_of_offset hnow)
        omega
  · exact fails_of_window (exists_window_error_of_start hnow hstart hstop h)
  · obtain ⟨start, hinstant, hwindow⟩ := window_of_stop hnow hstart hstop h
    have hdecided := decided_of_window hwindow
    refine ⟨start, hinstant, hdecided, fun hwithin hroom => hdecided.1 ?_⟩
    rcases hroom with hbehind | hroom
    · exact Int.le_trans hbehind hwithin
    · rw [hinstant]
      unfold defaultStart
      by_cases hp : settings.roundPeriodSeconds ≤ 0
      · rw [roundedInstant_of_nonpos hp]
        exact hwithin
      · have hnear := roundedInstant_le precision (by omega : 0 < settings.roundPeriodSeconds) h.2.1
        omega
  · exact fails_of_window (exists_window_error_of_stop hnow hstart hstop h)

section Morning

def march (minutes : Int) (h : 0 ≤ minutes ∧ minutes ≤ 1440) : Moment where
  reading := (1709251200 + minutes * 60) * second
  offset := some 0
  inRange := by
    unfold firstReading lastReading day second
    omega
  offset_lt := Moment.offset_lt_utc

def since (start : Moment) : Selection :=
  ⟨some start, none, "", "", "", ""⟩

/-- At ten past twelve, since eleven o'clock. -/
theorem ofSelection_sinceEleven : (march 730 (by decide)).offset = some 0 ∧
    ∃ f, ofSelection .double {} (march 730 (by decide)) (since (march 660 (by decide))) = .ok f := by
  have hnow : (march 730 (by decide)).offset = some 0 := rfl
  have hdefault : HasDefaultStop .double {} (march 730 (by decide)) := by
    unfold HasDefaultStop Spannable InRange
    decide +kernel
  obtain ⟨stop, -, -, haccepted⟩ := ((ofSelection_oneBound .double {} (since (march 660 (by decide)))
    hnow).1 (march 660 (by decide)) rfl rfl).1 hdefault
  exact ⟨hnow, _, haccepted (by decide) (.inr (by decide))⟩

/-- At ten past twelve, since five past twelve: the present is rounded to twelve o'clock. A window
that begins before the first year has no default at all. -/
theorem ofSelection_sinceFivePast :
    ((march 725 (by decide)).instant ≤ (march 730 (by decide)).instant ∧
      ofSelection .double {} (march 730 (by decide)) (since (march 725 (by decide))) =
        .error .queryRange) ∧
    (daysBefore { defaultWindowDays := 800000 } (march 730 (by decide)) ≤
        (march 730 (by decide)).instant ∧
      ofSelection .double { defaultWindowDays := 800000 } (march 730 (by decide))
        ⟨none, some (march 730 (by decide)), "", "", "", ""⟩ = .error .dateRange) := by
  decide +kernel

end Morning

end Census.Filters
