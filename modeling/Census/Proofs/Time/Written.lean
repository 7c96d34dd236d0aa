import Census.Proofs.Text.Digit
import Census.Proofs.Time.Calendar
import Census.Time.Reader
import Census.Time.Written

/-! A written moment is read back, so its text determines it. -/
namespace Census.Time

open Census.Text

theorem length_padded (width n : Nat) : (padded width n).length = width := by
  induction width generalizing n with
  | zero => rfl
  | succ w ih => simp [padded, ih]

theorem filterMap_padded (width n : Nat) :
    ∃ ds, (padded width n).filterMap asciiDigit? = ds ∧ ds.length = width ∧
      ofDigits ds = n % 10 ^ width := by
  induction width generalizing n with
  | zero => exact ⟨[], rfl, rfl, by simp [ofDigits, Nat.mod_one]⟩
  | succ w ih =>
    obtain ⟨ds, hdigits, hlength, hvalue⟩ := ih (n / 10)
    refine ⟨ds ++ [n % 10], ?_, by simp [hlength], ?_⟩
    · unfold padded
      rw [List.filterMap_append, hdigits, List.filterMap_cons,
        asciiDigit?_digitChar _ (Nat.mod_lt n (by decide))]
      rfl
    · unfold ofDigits at hvalue ⊢
      rw [List.foldl_append, hvalue]
      simp only [List.foldl_cons, List.foldl_nil]
      rw [Nat.pow_succ', Nat.mod_mul]
      omega

theorem isSome_asciiDigit?_of_mem_padded {width n : Nat} {c : Char} (h : c ∈ padded width n) :
    (asciiDigit? c).isSome = true := by
  induction width generalizing n with
  | zero => simp [padded] at h
  | succ w ih =>
    unfold padded at h
    rcases List.mem_append.mp h with h | h
    · exact ih h
    · rw [List.mem_singleton.mp h, asciiDigit?_digitChar _ (Nat.mod_lt n (by decide))]
      rfl

theorem takeNumber_padded {width n : Nat} (h : n < 10 ^ width) (rest : List Char) :
    takeNumber width (padded width n ++ rest) = some (n, rest) := by
  obtain ⟨ds, hdigits, hlength, hvalue⟩ := filterMap_padded width n
  unfold takeNumber
  rw [List.take_left' (length_padded width n), List.drop_left' (length_padded width n), hdigits]
  dsimp only
  rw [if_pos hlength, hvalue, Nat.mod_eq_of_lt h]

theorem takeTwo (n : Nat) (rest : List Char) (h : n < 100) :
    takeNumber 2 (padded 2 n ++ rest) = some (n, rest) :=
  takeNumber_padded h rest

theorem takeDate_padded {d : Date} (h : d.IsValid) (hfirst : 1 ≤ d.year) (hlast : d.year ≤ 9999)
    (rest : List Char) :
    takeDate (padded 4 d.year.toNat ++ '-' :: (padded 2 d.month ++ '-' :: (padded 2 d.day ++ rest)))
      = some (d, rest) := by
  have ⟨_, hmonth, _, hday⟩ := h
  have hlength : daysInMonth d.year d.month ≤ 31 := by
    unfold daysInMonth
    split
    · split <;> omega
    · split <;> omega
  have hyear : ((d.year.toNat : Nat) : Int) = d.year := Int.toNat_of_nonneg (by omega)
  have hfour : ∀ rest, takeNumber 4 (padded 4 d.year.toNat ++ rest) = some (d.year.toNat, rest) :=
    takeNumber_padded (by omega)
  unfold takeDate
  rw [hfour]
  simp [takeTwo, hyear, h, show d.month < 100 by omega, show d.day < 100 by omega]
  omega

/-- What follows the clock time of a written moment: its offset, or nothing. -/
def IsOffset (cs : List Char) : Prop :=
  ∀ c ∈ cs.head?, c = '+' ∨ c = '-'

theorem takeWhile_padded (width n : Nat) {cs : List Char} (h : IsOffset cs) :
    (padded width n ++ cs).takeWhile (fun d => (asciiDigit? d).isSome) = padded width n := by
  rw [List.takeWhile_append_of_pos fun c hc => isSome_asciiDigit?_of_mem_padded hc]
  cases cs with
  | nil => simp
  | cons c cs =>
    rcases h c rfl with rfl | rfl <;> rw [List.takeWhile_cons_of_neg (by decide), List.append_nil]

def takeFraction (base : Int) (cs : List Char) : Option (Int × List Char) :=
  match cs with
  | c :: rest =>
    if c = '.' ∨ c = ',' then
      let ds := (rest.takeWhile fun d => (asciiDigit? d).isSome).filterMap asciiDigit?
      if ds.isEmpty then none else some (base * second + fractionMicros ds, rest.drop ds.length)
    else some (base * second, cs)
  | [] => some (base * second, [])

theorem takeClock_padded {hour minute sec : Nat} (hhour : hour < 24) (hminute : minute < 60)
    (hsec : sec < 60) (cs : List Char) :
    takeClock (padded 2 hour ++ ':' :: (padded 2 minute ++ ':' :: (padded 2 sec ++ cs))) =
      takeFraction ((hour * 3600 + minute * 60 : Nat) + sec) cs := by
  unfold takeClock
  rw [takeTwo _ _ (by omega)]
  simp only [Option.bind_eq_bind, Option.bind_some, takeTwo _ _ (show minute < 100 by omega),
    takeTwo _ _ (show sec < 100 by omega)]
  rw [if_neg (by omega), if_neg (by omega)]
  rfl

theorem takeFraction_offset (base : Int) {cs : List Char} (h : IsOffset cs) :
    takeFraction base cs = some (base * second, cs) := by
  cases cs with
  | nil => rfl
  | cons c cs =>
    rcases h c rfl with rfl | rfl <;> rfl

theorem takeFraction_padded (base : Int) {micros : Nat} (hmicros : micros < 1000000)
    {cs : List Char} (h : IsOffset cs) :
    takeFraction base ('.' :: (padded 6 micros ++ cs)) = some (base * second + micros, cs) := by
  obtain ⟨ds, hdigits, hlength, hvalue⟩ := filterMap_padded 6 micros
  have hsome : ds.isEmpty = false := by
    rw [List.isEmpty_eq_false_iff, ← List.length_pos_iff, hlength]
    decide
  have hfraction : fractionMicros ds = micros := by
    unfold fractionMicros
    rw [List.take_left' hlength, hvalue]
    exact Nat.mod_eq_of_lt hmicros
  unfold takeFraction
  dsimp only
  rw [if_pos (.inl rfl), takeWhile_padded 6 micros h, hdigits, hsome, hfraction, hlength,
    List.drop_left' (length_padded 6 micros)]
  rfl

theorem takeSeconds_padded {rest : Nat} (hrest : rest < 60000000) :
    takeSeconds (padded 2 (rest / 1000000) ++
      if rest % 1000000 = 0 then [] else '.' :: padded 6 (rest % 1000000)) =
      some ((rest : Int), []) := by
  have hmicros : takeNumber 6 (padded 6 (rest % 1000000)) = some (rest % 1000000, []) := by
    rw [← List.append_nil (padded 6 (rest % 1000000)), takeNumber_padded (by omega)]
  have hsplit : ((rest / 1000000 : Nat) : Int) * 1000000 + (rest % 1000000 : Nat) = rest := by omega
  unfold takeSeconds second
  rw [takeTwo _ _ (by omega)]
  simp only [Option.bind_eq_bind, Option.bind_some]
  rw [if_neg (by omega)]
  by_cases hwhole : rest % 1000000 = 0
  · rw [if_pos hwhole, ← hsplit, hwhole]
    simp
  · rw [if_neg hwhole]
    simp [hmicros]
    omega

theorem isOffset_writeOffset (o : Int) : IsOffset (writeOffset o) := by
  intro c hc
  unfold writeOffset writeMinutes at hc
  dsimp only [List.cons_append, List.head?_cons] at hc
  rw [← Option.some.inj hc]
  split
  · exact .inr rfl
  · exact .inl rfl

theorem readOffset?_padded {sign : Char} (hsign : sign = '+' ∨ sign = '-') {hours minutes : Nat}
    (hhours : hours < 24) (hminutes : minutes < 60) {tail : List Char} {rest : Int}
    (htail : (tail = [] ∧ rest = 0) ∨ ∃ cs, tail = ':' :: cs ∧ takeSeconds cs = some (rest, [])) :
    readOffset? true (sign :: (padded 2 hours ++ ':' :: (padded 2 minutes ++ tail))) =
      some (some (if sign = '+' then (hours * 3600 + minutes * 60 : Nat) * second + rest
        else -((hours * 3600 + minutes * 60 : Nat) * second + rest))) := by
  have hfirst := takeTwo hours (':' :: (padded 2 minutes ++ tail)) (by omega)
  have hsecond := takeTwo minutes tail (by omega)
  unfold readOffset?
  rcases hsign with rfl | rfl
  · rcases htail with ⟨rfl, rfl⟩ | ⟨cs, rfl, hseconds⟩
    · rw [List.append_nil] at hfirst hsecond ⊢
      simp [hfirst, hsecond, hhours, hminutes]
    · simp [hfirst, hsecond, hseconds, hhours, hminutes]
  · rcases htail with ⟨rfl, rfl⟩ | ⟨cs, rfl, hseconds⟩
    · rw [List.append_nil] at hfirst hsecond ⊢
      simp [hfirst, hsecond, hhours, hminutes]
    · simp [hfirst, hsecond, hseconds, hhours, hminutes]

theorem readOffset?_writeOffset {o : Int} (h : -day < o ∧ o < day) :
    readOffset? true (writeOffset o) = some (some o) := by
  unfold day second at h
  unfold writeOffset writeMinutes
  generalize hsize : o.natAbs = n
  dsimp only
  have hhours : n / 1000000 / 3600 < 24 := by omega
  have hminutes : n / 1000000 / 60 % 60 < 60 := by omega
  have hsum : ((n / 1000000 / 3600 * 3600 + n / 1000000 / 60 % 60 * 60 : Nat) : Int) * 1000000 +
      (n % 60000000 : Nat) = n := by omega
  have hread := @readOffset?_padded (if o < 0 then '-' else '+') (by split <;> simp) _ _ hhours
    hminutes (if n % 60000000 = 0 then [] else ':' :: (padded 2 (n % 60000000 / 1000000) ++
      if n % 60000000 % 1000000 = 0 then [] else '.' :: padded 6 (n % 60000000 % 1000000)))
    (n % 60000000 : Nat) (by
      split
      · exact .inl ⟨rfl, by omega⟩
      · exact .inr ⟨_, rfl, takeSeconds_padded (by omega)⟩)
  have hsign : (if (if o < 0 then '-' else '+') = '+' then (n : Int) else -n) = o := by
    by_cases hneg : o < 0
    · rw [if_pos hneg, if_neg (by decide)]
      omega
    · rw [if_neg hneg, if_pos rfl]
      omega
  unfold second at hread
  rw [hsum, hsign] at hread
  simp only [List.cons_append, List.append_assoc]
  exact hread

namespace Moment

theorem clock_bounds (m : Moment) :
    m.hour < 24 ∧ m.minute < 60 ∧ m.seconds < 60 ∧ m.micros < 1000000 := by
  unfold hour minute seconds micros day second
  omega

theorem clock_eq (m : Moment) :
    (((m.hour * 3600 + m.minute * 60 : Nat) : Int) + m.seconds) * second + m.micros =
      m.reading % day := by
  unfold hour minute seconds micros day second
  omega

theorem toDay_date (m : Moment) : m.date.toDay * day + m.reading % day = m.reading := by
  unfold date
  rw [Date.toDay_ofDay, Int.mul_comm]
  exact Int.mul_ediv_add_emod m.reading day

theorem make?_eq (m : Moment) : make? m.reading m.offset = some m := by
  obtain ⟨reading, offset, hrange, hoffset⟩ := m
  unfold make?
  rw [dif_pos hrange]
  cases offset with
  | none => rfl
  | some o =>
    dsimp only
    rw [dif_pos (hoffset o rfl)]

def offsetText (m : Moment) : List Char :=
  match m.offset with
  | none => []
  | some o => writeOffset o

theorem isOffset_offsetText (m : Moment) : IsOffset m.offsetText := by
  unfold offsetText
  cases m.offset with
  | none => exact fun c hc => nomatch hc
  | some o => exact isOffset_writeOffset o

theorem readOffset?_offsetText (m : Moment) : readOffset? true m.offsetText = some m.offset := by
  unfold offsetText
  cases hoffset : m.offset with
  | none => rfl
  | some o => exact readOffset?_writeOffset (m.offset_lt o hoffset)

def fractionText (m : Moment) (f : Fraction) : List Char :=
  match f with
  | .never => []
  | .always => '.' :: padded 6 m.micros
  | .nonzero => if m.micros = 0 then [] else '.' :: padded 6 m.micros

theorem takeFraction_fractionText (m : Moment) {f : Fraction} (hf : f ≠ .never) (base : Int) :
    takeFraction base (m.fractionText f ++ m.offsetText) =
      some (base * second + m.micros, m.offsetText) := by
  have hpadded := takeFraction_padded base m.clock_bounds.2.2.2 m.isOffset_offsetText
  unfold fractionText
  cases f with
  | never => exact absurd rfl hf
  | always => exact hpadded
  | nonzero =>
    dsimp only
    split
    · rename_i hzero
      rw [List.nil_append, takeFraction_offset base m.isOffset_offsetText, hzero]
      simp
    · exact hpadded

theorem readParts?_of_offset (m : Moment) {withSeconds : Bool} {f : Fraction} (hf : f ≠ .never)
    (hoffset : readOffset? withSeconds m.offsetText = some m.offset) :
    readParts? withSeconds (m.write f) = some m := by
  obtain ⟨hhour, hminute, hsec, -⟩ := m.clock_bounds
  have htext : m.write f = padded 4 m.date.year.toNat ++ '-' :: (padded 2 m.date.month ++
      '-' :: (padded 2 m.date.day ++ 'T' :: (padded 2 m.hour ++ ':' :: (padded 2 m.minute ++
        ':' :: (padded 2 m.seconds ++ (m.fractionText f ++ m.offsetText)))))) := by
    simp only [write, writeReading, List.cons_append, List.append_assoc]
    rfl
  have hvalid : m.date.IsValid := Date.ofDay_isValid (m.reading / day)
  have hclock := takeClock_padded hhour hminute hsec (m.fractionText f ++ m.offsetText)
  rw [takeFraction_fractionText m hf, clock_eq] at hclock
  rw [htext]
  unfold readParts?
  rw [takeDate_padded hvalid m.year_date.1 m.year_date.2]
  simp [hclock, hoffset, toDay_date, make?_eq]

theorem readParts?_write (m : Moment) {f : Fraction} (hf : f ≠ .never) :
    readParts? true (m.write f) = some m :=
  m.readParts?_of_offset hf m.readOffset?_offsetText

theorem read?_text {m : Moment} (h : m.offset = some 0) : read? m.text = some m := by
  have hoffset : readOffset? false m.offsetText = some m.offset := by
    unfold offsetText
    rw [h]
    decide
  unfold read? text
  dsimp only
  rw [String.toList_ofList, m.readParts?_of_offset (by decide) hoffset]
  rfl

theorem write_injective {m n : Moment} {f : Fraction} (hf : f ≠ .never)
    (h : m.write f = n.write f) : m = n := by
  have hread := readParts?_write m hf
  rw [h, readParts?_write n hf] at hread
  exact (Option.some.inj hread).symm

end Moment

end Census.Time
