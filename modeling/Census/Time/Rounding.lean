import Census.Failure.Basic
import Census.Number.Basic
import Census.Time.Moment
/-! Rounding of moments to a period, and spans of time. An instant is rounded to the nearest
multiple of the period since 1970, a tie to the later one. -/
namespace Census.Time

open Number (Precision)

def instantSeconds : Precision → Int → Rat
  | .exact, micros => mkRat micros 1000000
  | .double, micros => (Number.value? (Number.ofScaled micros 6)).getD 0

/-- A reading of unknown offset must leave room for a whole day before it. -/
def Moment.hasDayBefore (m : Moment) : Bool :=
  m.offset.isSome || firstReading + day ≤ m.reading

/-- The multiple of `p` nearest to `x`; of two, the greater. -/
def nearestMultiple (p : Int) (x : Rat) : Int :=
  p * ((2 * x + p) / (2 * p)).floor

/-- A moment rounded to a period of whole seconds; a period that is not positive changes
nothing. -/
def Moment.roundTo (precision : Precision) (m : Moment) (p : Int) : Except Failure Moment :=
  if p ≤ 0 then .ok m
  else if !m.hasDayBefore then .error (.yearRange 0)
  else
    let micros := nearestMultiple p (instantSeconds precision m.instant) * second
    match Moment.utc? micros with
    | some r => .ok r
    | none => .error (.yearRange (Date.ofDay (micros / day)).year)

def Moment.inUtc (m : Moment) : Except Failure Moment :=
  match m.assumeUtc.toUtc? with
  | some u => .ok u
  | none => .error .dateRange

/-- Days are counted in words of 32 bits. -/
def dayWord : Int := 2147483648

/-- A span of time in microseconds, of less than a thousand million days. -/
def span (micros : Int) : Except Failure Int :=
  let days := micros / day
  if days < -dayWord ∨ dayWord ≤ days then .error .durationWord
  else if days.natAbs ≤ 999999999 then .ok micros
  else .error (.durationDays days)

def roundHalfEven (x : Rat) : Int :=
  let low := x.floor
  let rest := x - low
  if rest < 1 / 2 then low
  else if 1 / 2 < rest then low + 1
  else if low % 2 = 0 then low else low + 1

def spanOfSeconds : Number → Except Failure Int
  | .int n => span (n * second)
  | .float x =>
    match Number.value? x with
    | none =>
      if x == x then .error (.outside .overflow "cannot convert float infinity to integer")
      else .error (.outside .value "cannot convert float NaN to integer")
    | some v =>
      let whole := if 0 ≤ v then v.floor else v.ceil
      let fraction := (Number.value? ((x - Float.ofInt whole) * 1000000.0)).getD 0
      span (roundHalfEven (whole * second + fraction))

def wholeSeconds (micros : Int) : Int :=
  (Number.truncate? (Number.ofScaled micros 6)).getD 0

def Moment.shift (m : Moment) (micros : Int) : Except Failure Moment :=
  match Moment.make? (m.reading + micros) m.offset with
  | some r => .ok r
  | none => .error .dateRange

end Census.Time
