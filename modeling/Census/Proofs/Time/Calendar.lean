import Census.Time.Moment

/-! The dates of the calendar: a date of a day number is valid and has that number, and the clock's
range covers the years 1 to 9999. -/
namespace Census.Time

/-- The year of a day of the cycle of four hundred years, from March on. -/
def yearOfCycle (d : Int) : Int :=
  (d - d / 1460 + d / 36524 - d / 146096) / 365

def daysBefore (y : Int) : Int :=
  365 * y + y / 4 - y / 100

/-- Where a day `d` of century `g` lies, `f` counting the leap days passed in the century: the year
is one of a hundred, and it has a leap day only if it is the last of four and not of a hundred. -/
theorem century_bounds {g d f y : Int} (hg : 0 ≤ g ∧ g ≤ 3) (hlow : 0 ≤ d) (hhigh : d < 36524)
    (hf : f = (d + 24 * g) / 1460) (hy : y = (d - f) / 365) :
    0 ≤ y ∧ y < 100 ∧ 0 ≤ d - (365 * y + y / 4) ∧ d - (365 * y + y / 4) ≤ 365 ∧
      (d - (365 * y + y / 4) = 365 → y % 4 = 3 ∧ y ≠ 99) := by
  have hyears : 0 ≤ y ∧ y < 100 := by omega
  have hleaps : y / 4 ≤ f ∧ f ≤ y / 4 + 1 := by omega
  have hahead : f = y / 4 + 1 → 1460 * f ≤ d + 24 * g ∧ y + 1 = 4 * f := by omega
  refine ⟨hyears.1, hyears.2, by omega, by omega, ?_⟩
  intro hlast
  constructor <;> omega

theorem yearOfCycle_bounds {d y : Int} (hlow : 0 ≤ d) (hhigh : d < 146097)
    (hy : y = yearOfCycle d) :
    0 ≤ y ∧ y < 400 ∧ 0 ≤ d - daysBefore y ∧ d - daysBefore y ≤ 365 ∧
      (d - daysBefore y = 365 → y % 4 = 3 ∧ (y % 100 ≠ 99 ∨ y = 399)) := by
  unfold daysBefore
  -- the last day of the cycle is the leap day that ends its fourth century
  rcases (show d = 146096 ∨ d < 146096 by omega) with rfl | hbefore
  · subst hy
    decide
  have hcentury : 0 ≤ d / 36524 ∧ d / 36524 ≤ 3 := by omega
  generalize hg : d / 36524 = g at hcentury
  have hwithin : y - 100 * g = (d - 36524 * g - (d / 1460 - 25 * g)) / 365 := by
    unfold yearOfCycle at hy
    omega
  obtain ⟨hfirst, hlast, hstart, hend, hleap⟩ :=
    century_bounds (d := d - 36524 * g) hcentury (by omega) (by omega) (by omega) hwithin
  have hquotient : y / 100 = g := by omega
  refine ⟨by omega, by omega, by omega, by omega, ?_⟩
  intro h
  obtain ⟨hfour, hhundred⟩ := hleap (by omega)
  exact ⟨by omega, .inl (by omega)⟩

/-- Day `d` of year `y` of cycle `c`, the days of a year counted from March on. -/
structure Lies (n c y d : Int) : Prop where
  year : 0 ≤ y ∧ y < 400
  day : 0 ≤ d ∧ d ≤ 365
  leap : d = 365 → y % 4 = 3 ∧ (y % 100 ≠ 99 ∨ y = 399)
  number : n + 719468 = c * daysPerCycle + daysBefore y + d

def civil (c y d : Int) : Date :=
  let month := (5 * d + 2) / 153
  let civilMonth := if month < 10 then month + 3 else month - 9
  { year := if civilMonth ≤ 2 then y + c * 400 + 1 else y + c * 400
    month := civilMonth.toNat
    day := (d - (153 * month + 2) / 5 + 1).toNat }

theorem exists_lies (n : Int) : ∃ c y d, Lies n c y d ∧ Date.ofDay n = civil c y d := by
  have hlow : 0 ≤ (n + 719468) % daysPerCycle := Int.emod_nonneg _ (by decide)
  have hhigh : (n + 719468) % daysPerCycle < 146097 := Int.emod_lt_of_pos _ (by decide)
  obtain ⟨hfirst, hlast, hstart, hend, hleap⟩ := yearOfCycle_bounds hlow hhigh rfl
  refine ⟨(n + 719468) / daysPerCycle, _, _, ⟨⟨hfirst, hlast⟩, ⟨hstart, hend⟩, hleap, ?_⟩, rfl⟩
  have hdivision := Int.mul_ediv_add_emod (n + 719468) daysPerCycle
  rw [Int.mul_comm] at hdivision
  omega

section Civil

variable {n c y d : Int}

/-- The months of a year from March on, where January and February belong to the next year. -/
theorem civil_cases (h : Lies n c y d) :
    ∃ m : Int, m = (5 * d + 2) / 153 ∧ 1 ≤ d - (153 * m + 2) / 5 + 1 ∧
      ((m ≤ 9 ∧ 0 ≤ m ∧
          civil c y d = ⟨y + c * 400, (m + 3).toNat, (d - (153 * m + 2) / 5 + 1).toNat⟩) ∨
        (10 ≤ m ∧ m ≤ 11 ∧
          civil c y d = ⟨y + c * 400 + 1, (m - 9).toNat, (d - (153 * m + 2) / 5 + 1).toNat⟩)) := by
  obtain ⟨hstart, hend⟩ := h.day
  refine ⟨_, rfl, by omega, ?_⟩
  rcases (show (5 * d + 2) / 153 ≤ 9 ∨ 10 ≤ (5 * d + 2) / 153 by omega) with hearly | hlate
  · refine .inl ⟨hearly, by omega, ?_⟩
    unfold civil
    dsimp only
    rw [if_pos (show (5 * d + 2) / 153 < 10 by omega), if_neg (by omega)]
  · refine .inr ⟨hlate, by omega, ?_⟩
    unfold civil
    dsimp only
    rw [if_neg (show ¬ (5 * d + 2) / 153 < 10 by omega), if_pos (by omega)]

theorem toDay_civil (h : Lies n c y d) : (civil c y d).toDay = n := by
  have hyear := h.year
  have hnumber := h.number
  have hrest : (y + c * 400) % 400 = y := by omega
  have hcycle : (y + c * 400) / 400 = c := by omega
  unfold daysBefore at hnumber
  obtain ⟨m, hm, hday, ⟨hlate, hearly, hcivil⟩ | ⟨hearly, hlate, hcivil⟩⟩ := civil_cases h
  · have hmonth : (((m + 3).toNat : Int) + 9) % 12 = m := by omega
    rw [hcivil]
    unfold Date.toDay
    dsimp only
    rw [if_neg (by omega), hrest, hcycle, hmonth, Int.toNat_of_nonneg (by omega)]
    omega
  · have hmonth : (((m - 9).toNat : Int) + 9) % 12 = m := by omega
    rw [hcivil]
    unfold Date.toDay
    dsimp only
    rw [if_pos (by omega), Int.add_sub_cancel, hrest, hcycle, hmonth,
      Int.toNat_of_nonneg (by omega)]
    omega

theorem isLeapYear_of_lies (h : Lies n c y 365) : isLeapYear (y + c * 400 + 1) = true := by
  obtain ⟨hfour, hhundred⟩ := h.leap rfl
  have hyear := h.year
  unfold isLeapYear
  simp only [Bool.and_eq_true, Bool.or_eq_true, beq_iff_eq, bne_iff_ne]
  refine ⟨by omega, ?_⟩
  rcases hhundred with hhundred | hhundred
  · exact .inl (by omega)
  · exact .inr (by omega)

theorem civil_isValid (h : Lies n c y d) : (civil c y d).IsValid := by
  have hend := h.day
  obtain ⟨m, hm, hday, ⟨hlate, hearly, hcivil⟩ | ⟨hearly, hlate, hcivil⟩⟩ := civil_cases h
  · rw [hcivil]
    refine ⟨?_, ?_, ?_, ?_⟩ <;> dsimp only
    · omega
    · omega
    · omega
    · unfold daysInMonth
      rw [if_neg (by omega)]
      split <;> omega
  · rw [hcivil]
    refine ⟨?_, ?_, ?_, ?_⟩ <;> dsimp only
    · omega
    · omega
    · omega
    · rcases (show m = 10 ∨ m = 11 by omega) with hjanuary | hfebruary
      · unfold daysInMonth
        rw [if_neg (by omega), if_neg (by omega)]
        omega
      · unfold daysInMonth
        rw [if_pos (by omega)]
        split
        · omega
        · rename_i hcommon
          have hlast : d ≠ 365 := by
            rintro rfl
            exact hcommon (isLeapYear_of_lies h)
          omega

theorem civil_year (h : Lies n c y d) (hfirst : -719162 ≤ n) (hlast : n < 2932897) :
    1 ≤ (civil c y d).year ∧ (civil c y d).year ≤ 9999 := by
  have hyear := h.year
  have hend := h.day
  have hnumber := h.number
  unfold daysBefore daysPerCycle at hnumber
  have hcycle : 0 ≤ c ∧ c ≤ 24 := by omega
  obtain ⟨m, hm, hday, ⟨hlate, hearly, hcivil⟩ | ⟨hearly, hlate, hcivil⟩⟩ := civil_cases h
  · rw [hcivil]
    dsimp only
    constructor
    · have : c = 0 → 1 ≤ y := by omega
      omega
    · omega
  · rw [hcivil]
    dsimp only
    have : c = 24 → y ≤ 398 := by omega
    omega

end Civil

theorem Date.toDay_ofDay (n : Int) : (Date.ofDay n).toDay = n := by
  obtain ⟨c, y, d, hlies, hdate⟩ := exists_lies n
  rw [hdate, toDay_civil hlies]

theorem Date.ofDay_isValid (n : Int) : (Date.ofDay n).IsValid := by
  obtain ⟨c, y, d, hlies, hdate⟩ := exists_lies n
  rw [hdate]
  exact civil_isValid hlies

namespace Moment

theorem year_date (m : Moment) : 1 ≤ m.date.year ∧ m.date.year ≤ 9999 := by
  obtain ⟨hfirst, hlast⟩ := m.inRange
  obtain ⟨c, y, d, hlies, hdate⟩ := exists_lies (m.reading / day)
  unfold firstReading at hfirst
  unfold lastReading at hlast
  unfold date
  rw [hdate]
  unfold day second at *
  exact civil_year hlies (by omega) (by omega)

theorem inRange_zero : firstReading ≤ 0 ∧ 0 ≤ lastReading := by decide

theorem offset_lt_none : ∀ o ∈ (none : Option Int), -day < o ∧ o < day := nofun

theorem offset_lt_utc : ∀ o ∈ some 0, -day < o ∧ o < day := by decide

theorem offset_lt_hour : ∀ o ∈ some (3600 * second), -day < o ∧ o < day := by decide

end Moment

end Census.Time
