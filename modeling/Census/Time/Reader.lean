import Census.Json.Basic
import Census.Number.Numeral
import Census.Time.Written
/-! Moments as clients send them: a written moment, a bare date, or a number of seconds since 1970
as text or as a number. Numbers beyond twenty thousand million count milliseconds. -/
namespace Census.Time

open Census.Text Census.Number

def secondsLimit : Int := 20000000000

def ofCount? (n : Int) : Option Moment :=
  if !fitsWord n then none
  else Moment.utc? (if n.natAbs ≤ secondsLimit.natAbs then n * second else n * 1000)

/-- A number of seconds or milliseconds with a fraction: the whole part downward, and the fraction
to the nearest microsecond. -/
def ofDouble? (x : Float) : Option Moment := do
  let value ← value? x
  let unit : Int := if -secondsLimit ≤ value ∧ value ≤ secondsLimit then second else 1000
  if !fitsWord value.floor then none
  let fraction ← value? ((x - Float.ofInt value.floor) * Float.ofInt unit)
  Moment.utc? (value.floor * unit + (fraction + 1 / 2).floor)

/-- A number as text: a whole number with or without a sign, or such a beginning with a point after
it, which makes the whole text a decimal. -/
def ofNumeral? (cs : List Char) : Option Moment := do
  let (negative, body) := splitSign cs
  let whole := body.takeWhile fun c => (asciiDigit? c).isSome
  let n : Int := ofDigits (whole.filterMap asciiDigit?)
  if !fitsWord n then none
  match body.drop whole.length with
  | [] => if whole.isEmpty then none else ofCount? (if negative then -n else n)
  | '.' :: _ => ofDouble? (← readPlainDecimal? cs)
  | _ => none

/-- A date alone is midnight on a clock of unknown offset. -/
def ofBareDate? (cs : List Char) : Option Moment := do
  let (date, []) ← takeDate cs | none
  Moment.make? (date.toDay * day) none

def Moment.read? (s : String) : Option Moment :=
  let cs := s.toList
  (readParts? false cs).or ((ofNumeral? cs).or (ofBareDate? cs))

def Moment.ofJson? : Json → Option Moment
  | .string s => Moment.read? s
  | .number (.int n) => ofCount? n
  | .number (.float x) => ofDouble? x
  | _ => none

end Census.Time
