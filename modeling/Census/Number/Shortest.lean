import Census.Number.Basic
/-! The shortest decimal that reads back as a given double. Every double stands for the interval of
reals that round to it; of the decimals with fewest digits inside, the nearest is taken. -/
namespace Census.Number

/-- A positive double as exact quarters of its last place: the value, the ends of its interval and
whether the ends belong to it, all over a common denominator. -/
structure Interval where
  value : Nat
  low : Nat
  high : Nat
  denominator : Nat
  closed : Bool

def leastMantissa : Nat := 4503599627370496

/-- The gap below a power of two is half the gap above it, unless the smallest exponent is
reached. -/
def Interval.ofParts (m : Nat) (e : Int) : Interval :=
  let below := if m = leastMantissa ∧ -1074 < e then 1 else 2
  let scale := Nat.pow 2 (e - 2).toNat
  { value := 4 * m * scale
    low := (4 * m - below) * scale
    high := (4 * m + 2) * scale
    denominator := Nat.pow 2 (2 - e).toNat
    closed := m % 2 = 0 }

structure Decimal where
  digits : Nat
  exponent : Int
deriving DecidableEq

def leadingZeros : (fuel : Nat) → (num den : Nat) → Nat
  | 0, _, _ => 0
  | fuel + 1, num, den => if den ≤ 10 * num then 0 else leadingZeros fuel (10 * num) den + 1

/-- The number of digits before the point, counted downward for fractions below one. -/
def magnitude (num den : Nat) : Int :=
  if den ≤ num then ((Nat.toDigits 10 (num / den)).length : Nat)
  else -((leadingZeros 400 num den : Nat) : Int)

/-- The point of the grid `10 ^ exponent` inside the interval that is nearest to the value. -/
def Interval.onGrid? (i : Interval) (exponent : Int) : Option Decimal :=
  let up := Nat.pow 10 (-exponent).toNat
  let den := i.denominator * Nat.pow 10 exponent.toNat
  let inside (c : Nat) : Bool :=
    if i.closed then i.low * up ≤ c * den && c * den ≤ i.high * up
    else i.low * up < c * den && c * den < i.high * up
  let floor := i.value * up / den
  let rest := i.value * up % den
  let upper := den < 2 * rest || (2 * rest == den && floor % 2 == 1)
  let nearest := if upper then floor + 1 else floor
  let other := if upper then floor else floor + 1
  if inside nearest then some ⟨nearest, exponent⟩
  else if inside other then some ⟨other, exponent⟩
  else none

def Interval.search (i : Interval) (top : Int) : (tries : Nat) → Option Decimal
  | 0 => none
  | tries + 1 =>
    match i.onGrid? (top - (17 - tries : Nat)) with
    | some d => some d
    | none => i.search top tries

def stripZeros : (fuel : Nat) → Decimal → Decimal
  | 0, d => d
  | fuel + 1, d =>
    if d.digits ≠ 0 ∧ d.digits % 10 = 0 then stripZeros fuel ⟨d.digits / 10, d.exponent + 1⟩ else d

/-- The shortest decimal of a positive double `m * 2 ^ e`; seventeen digits always suffice. -/
def shortest (m : Nat) (e : Int) : Decimal :=
  let i := Interval.ofParts m e
  match i.search (magnitude i.value i.denominator) 17 with
  | some d => stripZeros 20 d
  | none => ⟨0, 0⟩

/-- Positional from `10 ^ -4` up to `10 ^ 16`, always with a point; outside with an exponent of at
least two digits. -/
def Decimal.text (d : Decimal) : List Char :=
  let ds := Nat.toDigits 10 d.digits
  let lead : Int := d.exponent + (ds.length : Int) - 1
  if -4 ≤ lead ∧ lead < 16 then
    if 0 ≤ d.exponent then ds ++ List.replicate d.exponent.toNat '0' ++ ['.', '0']
    else if 0 ≤ lead then
      ds.take (lead.toNat + 1) ++ '.' :: ds.drop (lead.toNat + 1)
    else '0' :: '.' :: List.replicate (-lead - 1).toNat '0' ++ ds
  else
    let exponent := Nat.toDigits 10 lead.natAbs
    let padded := if exponent.length < 2 then '0' :: exponent else exponent
    let fraction := if ds.length ≤ 1 then ds else ds.take 1 ++ '.' :: ds.drop 1
    fraction ++ 'e' :: (if lead < 0 then '-' else '+') :: padded

def floatText (x : Float) : String :=
  let sign := if isNegative x then ['-'] else []
  match x.toModel.unpack with
  | .zero _ => String.ofList (sign ++ ['0', '.', '0'])
  | .finite _ m e _ => String.ofList (sign ++ (shortest m e).text)
  | .infinity _ => String.ofList (sign ++ ['i', 'n', 'f'])
  | .notANumber => "nan"

def text : Number → String
  | .int n => toString n
  | .float x => floatText x

end Census.Number
