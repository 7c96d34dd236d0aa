/-! Numbers as messages carry them, and the exact value of a double. Whole numbers have no bound;
all others are doubles, and the two kinds stay apart: `1` is not `1.0`. -/
namespace Census

inductive Number
  | int (n : Int)
  | float (x : Float)
deriving DecidableEq

namespace Number

def value? (x : Float) : Option Rat :=
  match x.toModel.unpack with
  | .zero _ => some 0
  | .finite sign m e _ =>
    if 0 ≤ e then some (sign.apply (m * Nat.pow 2 e.toNat : Nat))
    else some (mkRat (sign.apply m) (Nat.pow 2 (-e).toNat))
  | .infinity _ => none
  | .notANumber => none

/-- The sign bit, which tells the two zeros apart. -/
def isNegative (x : Float) : Bool :=
  x.toBits >>> 63 == 1

def isFinite (x : Float) : Bool :=
  (value? x).isSome

def ofInt? (n : Int) : Option Float :=
  let x := Float.ofInt n
  if isFinite x then some x else none

def truncate? (x : Float) : Option Int :=
  (value? x).map fun v => if 0 ≤ v then v.floor else v.ceil

def ofDecimal (negative : Bool) (digits : Nat) (exponent : Int) : Float :=
  let x := Float.ofScientific digits (exponent < 0) exponent.natAbs
  if negative then -x else x

def ofScaled (n : Int) (places : Nat) : Float :=
  ofDecimal (n < 0) n.natAbs (-(places : Int))

def wordBound : Int := 9223372036854775808

def fitsWord (n : Int) : Bool :=
  -wordBound ≤ n && n < wordBound

/-- The whole number nearest to a quotient, a tie to the even one. -/
def divideToEven (n d : Nat) : Nat :=
  let rest := n % d
  if d < 2 * rest ∨ (2 * rest = d ∧ n / d % 2 = 1) then n / d + 1 else n / d

/-- The distance of neighbours among the doubles around a whole number that is at least
`2 ^ 53`. -/
def doubleUnit (n : Nat) : Nat :=
  Nat.pow 2 (n.log2 - 52)

/-- The double nearest to a whole number, as a whole number. Magnitudes are not bounded. -/
def nearestDouble (n : Int) : Int :=
  let unit := doubleUnit n.natAbs
  let size : Int := divideToEven n.natAbs unit * unit
  if n < 0 then -size else size

/-- How numbers are computed with: exactly, or as the nearest doubles. -/
inductive Precision
  | exact
  | double
deriving DecidableEq

def Precision.keep : Precision → Int → Int
  | .exact, n => n
  | .double, n => nearestDouble n

theorem doubleUnit_of_lt {n : Nat} (h : n < 9007199254740992) : doubleUnit n = 1 := by
  have hlog : n.log2 ≤ 52 := by
    by_cases hn : n = 0
    · simp [hn]
    · have := (Nat.log2_lt (k := 53) hn).2 h
      omega
  have : n.log2 - 52 = 0 := by omega
  simp [doubleUnit, this]

theorem nearestDouble_of_lt {n : Int} (h : n.natAbs < 9007199254740992) : nearestDouble n = n := by
  rw [nearestDouble, doubleUnit_of_lt h]
  have : divideToEven n.natAbs 1 = n.natAbs := by simp [divideToEven, Nat.mod_one]
  simp only [this]
  split <;> omega

def toFloat : Number → Float
  | .int n => Float.ofInt n
  | .float x => x

def exactly? : Number → Option Rat
  | .int n => some n
  | .float x => value? x

def agrees (a b : Number) : Bool :=
  match a.exactly?, b.exactly? with
  | some x, some y => x == y
  | none, none => a.toFloat == b.toFloat
  | _, _ => false

def precedes (a b : Number) : Bool :=
  match a.exactly?, b.exactly? with
  | some x, some y => x < y
  | some _, none => 0.0 < b.toFloat
  | none, some _ => a.toFloat < 0.0
  | none, none => a.toFloat < b.toFloat

def isZero : Number → Bool
  | .int n => n == 0
  | .float x => x == 0.0

end Number

end Census
