import Census.Filters.Window
import Census.Proofs.Filters.Key

/-! The window of a query. Its bounds are those given, or defaults that a UTC clock can always show;
filters come of a window whose bounds are in order. -/
namespace Census

theorem bind_eq_ok {α β : Type} {x : Except Failure α} {f : α → Except Failure β} {b : β} :
    (x >>= f) = .ok b ↔ ∃ a, x = .ok a ∧ f a = .ok b := by
  cases x with
  | ok a => exact ⟨fun h => ⟨a, rfl, h⟩, fun ⟨_, ha, h⟩ => Except.ok.inj ha ▸ h⟩
  | error e => exact ⟨nofun, fun ⟨_, ha, _⟩ => by cases ha⟩

theorem bind_eq_error {α β : Type} {x : Except Failure α} {f : α → Except Failure β} {e : Failure} :
    (x >>= f) = .error e ↔ x = .error e ∨ ∃ a, x = .ok a ∧ f a = .error e := by
  cases x with
  | ok a =>
    refine ⟨fun h => .inr ⟨a, rfl, h⟩, ?_⟩
    rintro (h | ⟨_, ha, h⟩)
    · cases h
    · exact Except.ok.inj ha ▸ h
  | error e' =>
    refine ⟨fun h => .inl (congrArg _ (Except.error.inj h)), ?_⟩
    rintro (h | ⟨_, ha, _⟩)
    · exact congrArg _ (Except.error.inj h)
    · cases ha

namespace Filters

open Time Number

def window (precision : Precision) (settings : Settings) (now : Moment) (q : Selection) :
    Except Failure (Moment × Moment) := do
  let period := wholeSeconds (← span (settings.roundPeriodSeconds * second))
  let start ← bound precision period q.start do
    now.shift (-(← span (settings.defaultWindowDays * day)))
  let stop ← bound precision period q.stop (.ok now)
  return (start, stop)

def ofWindow (q : Selection) (start stop : Moment) : Filters :=
  ⟨some start.assumeUtc, some stop.assumeUtc, q.country, q.city, q.version, q.service⟩

def Windowed (f : Filters) : Prop :=
  ∃ start stop, f.start = some start ∧ f.stop = some stop ∧ start.offset.isSome = true ∧
    stop.offset.isSome = true ∧ start.instant ≤ stop.instant

variable {precision : Precision} {settings : Settings} {now : Moment} {q : Selection}

theorem ofSelection_eq (precision : Precision) (settings : Settings) (now : Moment)
    (q : Selection) : ofSelection precision settings now q =
      (window precision settings now q).bind fun w =>
        if w.2.instant < w.1.instant then .error .queryRange else .ok (ofWindow q w.1 w.2) := by
  unfold ofSelection window
  cases span (settings.roundPeriodSeconds * second) with
  | error e => rfl
  | ok period =>
    simp only [Bind.bind, Except.bind]
    cases bound precision (wholeSeconds period) q.start _ with
    | error e => rfl
    | ok start =>
      cases bound precision (wholeSeconds period) q.stop (.ok now) with
      | error e => rfl
      | ok stop =>
        simp only [Moment.instant_assumeUtc]
        rfl

theorem ofSelection_cases (precision : Precision) (settings : Settings) (now : Moment)
    (q : Selection) :
    (∃ e, window precision settings now q = .error e ∧
      ofSelection precision settings now q = .error e) ∨
    ∃ start stop, window precision settings now q = .ok (start, stop) ∧
      ((stop.instant < start.instant ∧
        ofSelection precision settings now q = .error .queryRange) ∨
      (start.instant ≤ stop.instant ∧
        ofSelection precision settings now q = .ok (ofWindow q start stop))) := by
  rw [ofSelection_eq]
  cases window precision settings now q with
  | error e => exact .inl ⟨e, rfl, rfl⟩
  | ok w =>
    obtain ⟨start, stop⟩ := w
    refine .inr ⟨start, stop, rfl, ?_⟩
    by_cases h : stop.instant < start.instant
    · exact .inl ⟨h, if_pos h⟩
    · exact .inr ⟨Int.not_lt.mp h, if_neg h⟩

theorem windowed_ofWindow {start stop : Moment} (h : start.instant ≤ stop.instant) :
    Windowed (ofWindow q start stop) := by
  refine ⟨start.assumeUtc, stop.assumeUtc, rfl, rfl, ?_, ?_, ?_⟩
  · rw [Moment.offset_assumeUtc]
    rfl
  · rw [Moment.offset_assumeUtc]
    rfl
  · rwa [Moment.instant_assumeUtc, Moment.instant_assumeUtc]

section Defaults

theorem isA_own_of_span {micros : Int} {e : Failure} (h : span micros = .error e) :
    e.isA .own = false := by
  unfold span at h
  dsimp only at h
  split at h
  · rw [← Except.error.inj h]
    rfl
  split at h
  · cases h
  · rw [← Except.error.inj h]
    rfl

theorem isA_own_of_shift {m : Moment} {micros : Int} {e : Failure}
    (h : m.shift micros = .error e) : e.isA .own = false := by
  unfold Moment.shift at h
  split at h
  · cases h
  · rw [← Except.error.inj h]
    rfl

theorem isA_own_of_roundTo {m : Moment} {p : Int} {e : Failure}
    (h : m.roundTo precision p = .error e) : e.isA .own = false := by
  unfold Moment.roundTo at h
  split at h
  · cases h
  split at h
  · rw [← Except.error.inj h]
    rfl
  dsimp only at h
  split at h
  · cases h
  · rw [← Except.error.inj h]
    rfl

theorem isA_own_of_bound {period : Int} {given : Option Moment} {fallback : Except Failure Moment}
    (hfallback : ∀ e, fallback = .error e → e.isA .own = false) {e : Failure}
    (h : bound precision period given fallback = .error e) : e.isA .own = false := by
  unfold bound at h
  cases given with
  | some m => cases h
  | none =>
    cases fallback with
    | error e' => exact hfallback e h
    | ok m => exact isA_own_of_roundTo h

theorem isA_own_of_window {e : Failure} (h : window precision settings now q = .error e) :
    e.isA .own = false := by
  unfold window at h
  rcases bind_eq_error.mp h with h | ⟨period, -, h⟩
  · exact isA_own_of_span h
  rcases bind_eq_error.mp h with h | ⟨start, -, h⟩
  · refine isA_own_of_bound (fun e he => ?_) h
    rcases bind_eq_error.mp he with he | ⟨days, -, he⟩
    · exact isA_own_of_span he
    · exact isA_own_of_shift he
  rcases bind_eq_error.mp h with h | ⟨stop, -, h⟩
  · exact isA_own_of_bound (fun e he => by cases he) h
  · cases h

theorem showsInUtc_of_offset {m : Moment} (h : m.offset.getD 0 = 0) : m.ShowsInUtc := by
  unfold Moment.ShowsInUtc Moment.instant
  rw [h, Int.sub_zero]
  exact m.inRange

theorem offset_of_make? {reading : Int} {offset : Option Int} {m : Moment}
    (h : Moment.make? reading offset = some m) : m.offset = offset := by
  unfold Moment.make? at h
  split at h
  · split at h
    · rw [← Option.some.inj h]
    · split at h
      · rw [← Option.some.inj h]
      · cases h
  · cases h

theorem showsInUtc_roundTo {m r : Moment} {p : Int} (hm : m.ShowsInUtc)
    (h : m.roundTo precision p = .ok r) : r.ShowsInUtc := by
  unfold Moment.roundTo at h
  split at h
  · rw [← Except.ok.inj h]
    exact hm
  split at h
  · cases h
  dsimp only at h
  split at h
  · rename_i u hu
    rw [← Except.ok.inj h]
    exact showsInUtc_of_offset (by rw [offset_of_make? hu]; rfl)
  · cases h

theorem offset_shift {m r : Moment} {micros : Int} (h : m.shift micros = .ok r) :
    r.offset = m.offset := by
  unfold Moment.shift at h
  split at h
  · rename_i u hu
    rw [← Except.ok.inj h]
    exact offset_of_make? hu
  · cases h

/-- A bound leaves the range of UTC only if it was given so. -/
theorem showsInUtc_bound_iff {period : Int} {given : Option Moment}
    {fallback : Except Failure Moment} (hfallback : ∀ m, fallback = .ok m → m.ShowsInUtc)
    {m : Moment} (h : bound precision period given fallback = .ok m) :
    m.ShowsInUtc ↔ ∀ g ∈ given, g.ShowsInUtc := by
  cases given with
  | some g =>
    have hgiven : g = m := Except.ok.inj h
    rw [hgiven]
    simp
  | none =>
    obtain ⟨d, hd, hround⟩ := bind_eq_ok.mp h
    have hm : m.ShowsInUtc := showsInUtc_roundTo (hfallback d hd) hround
    exact ⟨fun _ g hg => absurd hg (Option.not_mem_none g), fun _ => hm⟩

theorem hasKey_iff (hnow : now.offset.getD 0 = 0) {f : Filters}
    (h : ofSelection precision settings now q = .ok f) :
    f.HasKey ↔ ∀ m, m ∈ q.start ∨ m ∈ q.stop → m.ShowsInUtc := by
  rw [ofSelection_eq] at h
  obtain ⟨⟨start, stop⟩, hwindow, h⟩ := bind_eq_ok.mp h
  split at h
  · cases h
  obtain ⟨period, -, hwindow⟩ := bind_eq_ok.mp hwindow
  obtain ⟨start', hstart, hwindow⟩ := bind_eq_ok.mp hwindow
  obtain ⟨stop', hstop, hwindow⟩ := bind_eq_ok.mp hwindow
  obtain ⟨rfl, rfl⟩ := Prod.mk.inj (Except.ok.inj hwindow)
  have hfirst : start'.ShowsInUtc ↔ ∀ g ∈ q.start, g.ShowsInUtc := by
    refine showsInUtc_bound_iff (fun m hm => showsInUtc_of_offset ?_) hstart
    obtain ⟨days, -, hm⟩ := bind_eq_ok.mp hm
    rw [offset_shift hm, hnow]
  have hlast : stop'.ShowsInUtc ↔ ∀ g ∈ q.stop, g.ShowsInUtc :=
    showsInUtc_bound_iff (fun m hm => Except.ok.inj hm ▸ showsInUtc_of_offset hnow) hstop
  have hassume : ∀ m : Moment, HasInstant (some m.assumeUtc) ↔ m.ShowsInUtc := by
    intro m
    have hsame : m.assumeUtc.ShowsInUtc ↔ m.ShowsInUtc := by
      unfold Moment.ShowsInUtc
      rw [Moment.instant_assumeUtc]
    exact ⟨fun hm => hsame.mp (hm _ rfl), fun hm => hasInstant_some (hsame.mpr hm)⟩
  rw [← Except.ok.inj h]
  unfold HasKey ofWindow
  dsimp only
  rw [hassume, hassume, hfirst, hlast]
  constructor
  · rintro ⟨hstarts, hstops⟩ m (hm | hm)
    · exact hstarts m hm
    · exact hstops m hm
  · intro hall
    exact ⟨fun m hm => hall m (.inl hm), fun m hm => hall m (.inr hm)⟩

end Defaults

end Filters

end Census
