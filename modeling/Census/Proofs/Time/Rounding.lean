import Census.Proofs.Number.Millionths
import Census.Proofs.Time.Calendar
import Census.Time.Rounding
import Mathlib.Tactic.NormNum

/-! Rounding of instants to a period. However instants are read, the rounded one lies within half a
period of the instant, or not further behind it than that and half a second. -/
namespace Census.Time

open Number

/-- A clock that shows years of four digits shows the instant. -/
def InRange (micros : Int) : Prop :=
  firstReading ≤ micros ∧ micros ≤ lastReading

theorem natAbs_lt_of_inRange {micros : Int} (h : InRange micros) : micros.natAbs < 2 ^ 70 := by
  unfold InRange firstReading lastReading day second at h
  omega

theorem keepsHalves_instantSeconds (precision : Precision) {micros : Int}
    (h : micros.natAbs < 2 ^ 70) : KeepsHalves micros (instantSeconds precision micros) := by
  cases precision with
  | exact =>
    have hread : instantSeconds .exact micros = (micros : Rat) / 1000000 := Rat.mkRat_eq_div ..
    rw [hread]
    intro j
    rw [← mul_div_assoc, le_div_iff₀ (by norm_num), div_le_iff₀ (by norm_num)]
    exact ⟨fun hj => by exact_mod_cast hj, fun hj => by exact_mod_cast hj⟩
  | double =>
    obtain ⟨v, hv, hkeeps⟩ := value?_ofScaled h
    have hread : instantSeconds .double micros = v := by
      change (value? (ofScaled micros 6)).getD 0 = v
      rw [hv]
      rfl
    rw [hread]
    exact hkeeps

theorem wholeSeconds_eq {seconds : Int} (h : (seconds * second).natAbs < 2 ^ 70) :
    wholeSeconds (seconds * second) = seconds := by
  obtain ⟨v, hv, hkeeps⟩ := value?_ofScaled h
  obtain rfl : v = seconds := hkeeps.eq_of_whole
  unfold wholeSeconds truncate?
  rw [hv]
  simp

section Multiple

variable {p n : Int} {x : Rat}

theorem nearestMultiple_bounds (hp : 0 < p) (x : Rat) :
    2 * x < 2 * nearestMultiple p x + p ∧ 2 * nearestMultiple p x - p ≤ 2 * x := by
  have hperiod : (0 : Rat) < 2 * p := by exact_mod_cast (by omega : 0 < 2 * p)
  have hlow := Rat.floor_le ((2 * x + p) / (2 * p))
  have hhigh := Rat.lt_floor_add_one ((2 * x + p) / (2 * p))
  rw [le_div_iff₀ hperiod] at hlow
  rw [div_lt_iff₀ hperiod] at hhigh
  unfold nearestMultiple
  push_cast at hhigh ⊢
  constructor <;> linarith

/-- A rounded instant is at most half a period before the instant it is rounded from. -/
theorem lt_nearestMultiple (hp : 0 < p) (hx : KeepsHalves n x) :
    2 * n < 2 * (nearestMultiple p x * second) + p * second := by
  have hhigh := (nearestMultiple_bounds hp x).1
  by_contra hn
  have hside := (hx (2 * nearestMultiple p x + p)).1 (by unfold second at hn; omega)
  push_cast at hside
  linarith

/-- It may be later by half a period, and by half a second more where the reading is rounded. -/
theorem nearestMultiple_lt (hp : 0 < p) (hx : KeepsHalves n x) :
    2 * (nearestMultiple p x * second) < 2 * n + p * second + second := by
  have hlow := (nearestMultiple_bounds hp x).2
  by_contra hn
  have hside := (hx (2 * nearestMultiple p x - p - 1)).2 (by unfold second at hn; omega)
  push_cast at hside
  linarith

theorem nearestMultiple_exact_le (hp : 0 < p) (n : Int) :
    2 * (nearestMultiple p (instantSeconds .exact n) * second) ≤ 2 * n + p * second := by
  have hlow := (nearestMultiple_bounds hp (instantSeconds .exact n)).2
  have hread : instantSeconds .exact n = (n : Rat) / 1000000 := Rat.mkRat_eq_div ..
  have hmicros : (2 * nearestMultiple p (instantSeconds .exact n) - p) * 1000000 ≤ 2 * (n : Rat) := by
    rw [hread] at hlow ⊢
    linarith
  have hwhole : (2 * nearestMultiple p (instantSeconds .exact n) - p) * 1000000 ≤ 2 * n := by
    exact_mod_cast hmicros
  unfold second
  omega

end Multiple

def roundedInstant (precision : Precision) (p micros : Int) : Int :=
  if p ≤ 0 then micros else nearestMultiple p (instantSeconds precision micros) * second

section Rounded

variable {precision : Precision} {p micros : Int}

theorem roundedInstant_of_nonpos (hp : p ≤ 0) : roundedInstant precision p micros = micros :=
  if_pos hp

theorem roundedInstant_of_pos (hp : 0 < p) : roundedInstant precision p micros =
    nearestMultiple p (instantSeconds precision micros) * second :=
  if_neg (by omega)

/-- How much further than half a period a reading may move an instant. -/
def slack : Precision → Int
  | .exact => 0
  | .double => second

theorem lt_roundedInstant (precision : Precision) (hp : 0 < p) (h : InRange micros) :
    2 * micros < 2 * roundedInstant precision p micros + p * second := by
  rw [roundedInstant_of_pos hp]
  exact lt_nearestMultiple hp (keepsHalves_instantSeconds precision (natAbs_lt_of_inRange h))

theorem roundedInstant_le (precision : Precision) (hp : 0 < p) (h : InRange micros) :
    2 * roundedInstant precision p micros ≤ 2 * micros + p * second + slack precision := by
  rw [roundedInstant_of_pos hp]
  cases precision with
  | exact =>
    have hle := nearestMultiple_exact_le hp micros
    simp only [slack]
    omega
  | double =>
    have hlt := nearestMultiple_lt hp (keepsHalves_instantSeconds .double (natAbs_lt_of_inRange h))
    simp only [slack]
    omega

theorem instant_of_offset {m : Moment} (h : m.offset = some 0) : m.instant = m.reading := by
  unfold Moment.instant
  rw [h]
  simp

theorem utc?_of_inRange (h : InRange micros) :
    ∃ m, Moment.utc? micros = some m ∧ m.instant = micros ∧ m.offset = some 0 := by
  unfold InRange at h
  unfold Moment.utc? Moment.make?
  rw [dif_pos h]
  dsimp only
  rw [dif_pos (by decide)]
  exact ⟨_, rfl, Int.sub_zero micros, rfl⟩

theorem utc?_of_not_inRange (h : ¬ InRange micros) : Moment.utc? micros = none :=
  dif_neg h

theorem roundTo_of_inRange {m : Moment} (hm : m.offset = some 0)
    (h : InRange (roundedInstant precision p m.instant)) :
    ∃ r, m.roundTo precision p = .ok r ∧ r.instant = roundedInstant precision p m.instant := by
  unfold Moment.roundTo
  by_cases hp : p ≤ 0
  · rw [if_pos hp]
    exact ⟨m, rfl, (roundedInstant_of_nonpos hp).symm⟩
  · have hday : (!m.hasDayBefore) = false := by simp [Moment.hasDayBefore, hm]
    rw [roundedInstant_of_pos (by omega)] at h ⊢
    obtain ⟨r, hr, hinstant, -⟩ := utc?_of_inRange h
    rw [if_neg hp, hday, if_neg Bool.false_ne_true]
    dsimp only
    rw [hr]
    exact ⟨r, rfl, hinstant⟩

theorem roundTo_of_not_inRange {m : Moment} (h : ¬ InRange (roundedInstant precision p m.instant))
    (hshown : InRange m.instant) : ∃ e, m.roundTo precision p = .error e := by
  have hp : ¬ p ≤ 0 := by
    intro hp
    rw [roundedInstant_of_nonpos hp] at h
    exact h hshown
  rw [roundedInstant_of_pos (by omega)] at h
  unfold Moment.roundTo
  rw [if_neg hp]
  split
  · exact ⟨_, rfl⟩
  · dsimp only
    rw [utc?_of_not_inRange h]
    exact ⟨_, rfl⟩

end Rounded

def Spannable (seconds : Int) : Prop :=
  (seconds * second / day).natAbs ≤ 999999999

theorem span_eq {micros : Int} (h : (micros / day).natAbs ≤ 999999999) :
    span micros = .ok micros := by
  unfold span dayWord
  dsimp only
  rw [if_neg (by omega), if_pos h]

theorem exists_span_error {micros : Int} (h : ¬ (micros / day).natAbs ≤ 999999999) :
    ∃ e, span micros = .error e := by
  unfold span
  dsimp only
  rw [if_neg h]
  split <;> exact ⟨_, rfl⟩

theorem wholeSeconds_of_spannable {seconds : Int} (h : Spannable seconds) :
    wholeSeconds (seconds * second) = seconds := by
  refine wholeSeconds_eq ?_
  unfold Spannable day second at h
  unfold second
  omega

end Census.Time
