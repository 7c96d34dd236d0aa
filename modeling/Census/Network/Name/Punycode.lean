import Census.Text.Digit
/-! Names of hosts in ASCII letters. The ASCII characters of a name come first; after a hyphen, the
others follow as the steps from one to the next in order of code points, in digits of base
thirty-six whose weights adapt to the steps before. -/
namespace Census.Network.Name.Punycode

/-- Letters stand for the digits up to twenty-five, ASCII digits for those above. -/
def digitChar (d : Nat) : Char :=
  if d < 26 then Char.ofNat (d + 97) else Char.ofNat (d + 22)

def digit? (c : Char) : Option Nat :=
  if 'a' ≤ c ∧ c ≤ 'z' then some (c.toNat - 97)
  else if 'A' ≤ c ∧ c ≤ 'Z' then some (c.toNat - 65)
  else if '0' ≤ c ∧ c ≤ '9' then some (c.toNat - 22)
  else none

/-- Digits below the threshold of their place end a number. Places are counted in steps of the base.
-/
def threshold (place bias : Nat) : Nat :=
  if place ≤ bias then 1 else if bias + 26 ≤ place then 26 else place - bias

theorem threshold_pos (place bias : Nat) : 1 ≤ threshold place bias := by
  unfold threshold
  split
  · omega
  · split <;> omega

def settle (delta place : Nat) : Nat × Nat :=
  if 455 < delta then settle (delta / 35) (place + 36) else (delta, place)
termination_by delta
decreasing_by exact Nat.div_lt_self (by omega) (by omega)

def adapt (delta count : Nat) (isFirst : Bool) : Nat :=
  let delta := if isFirst then delta / 700 else delta / 2
  let (delta, place) := settle (delta + delta / count) 0
  place + 36 * delta / (delta + 38)

theorem step_lt {q t : Nat} (h : ¬q < t) (hpos : 1 ≤ t) : (q - t) / (36 - t) < q :=
  Nat.lt_of_le_of_lt (Nat.div_le_self _ _) (by omega)

def writeNumber (bias place q : Nat) : List Char :=
  let t := threshold place bias
  if q < t then [digitChar q]
  else digitChar (t + (q - t) % (36 - t)) :: writeNumber bias (place + 36) ((q - t) / (36 - t))
termination_by q
decreasing_by exact step_lt ‹_› (threshold_pos place bias)

/-- What is written, the step so far, the bias and how many characters are placed. -/
structure Encoder where
  written : List Char
  delta : Nat
  bias : Nat
  placed : Nat

def Encoder.pass (base n : Nat) (e : Encoder) (c : Char) : Encoder :=
  if c.toNat < n then { e with delta := e.delta + 1 }
  else if c.toNat = n then
    { written := e.written ++ writeNumber e.bias 36 e.delta
      delta := 0
      bias := adapt e.delta (e.placed + 1) (e.placed == base)
      placed := e.placed + 1 }
  else e

def Encoder.place (cs : List Char) (base : Nat) : (n : Nat) → List Nat → Encoder → Encoder
  | _, [], e => e
  | n, m :: rest, e =>
    let e := { e with delta := e.delta + (m - n) * (e.placed + 1) }
    let e := cs.foldl (Encoder.pass base m) e
    Encoder.place cs base (m + 1) rest { e with delta := e.delta + 1 }

def isAscii (c : Char) : Bool :=
  c.toNat < 128

def encode (cs : List Char) : List Char :=
  let plain := cs.filter isAscii
  let others := (((cs.filter fun c => !isAscii c).map Char.toNat).mergeSort).eraseDups
  let e := Encoder.place cs plain.length 128 others ⟨[], 0, 72, plain.length⟩
  plain ++ (if plain.isEmpty then [] else ['-']) ++ e.written

def readNumber (bias : Nat) : (place weight total : Nat) → List Char → Option (Nat × List Char)
  | _, _, _, [] => none
  | place, weight, total, c :: cs => do
    let d ← digit? c
    let t := threshold place bias
    if d < t then some (total + d * weight, cs)
    else readNumber bias (place + 36) (weight * (36 - t)) (total + d * weight) cs

/-- Puts further characters into a name, each at the place that its step leads to; every one takes a
digit at least. -/
def insertAll : (fuel : Nat) → (bias n i : Nat) → (name : List Char) → List Char →
    Option (List Char)
  | _, _, _, _, name, [] => some name
  | 0, _, _, _, _, _ :: _ => none
  | fuel + 1, bias, n, i, name, cs => do
    let (next, rest) ← readNumber bias 36 1 i cs
    let count := name.length + 1
    let n := n + next / count
    if h : n.isValidChar then
      insertAll fuel (adapt (next - i) count (i == 0)) n (next % count + 1)
        (name.insertIdx (next % count) (Char.ofNatAux n h)) rest
    else none

def decode? (cs : List Char) : Option (List Char) :=
  let further := (cs.reverse.takeWhile (· ≠ '-')).reverse
  let plain := cs.take (cs.length - further.length - 1)
  insertAll (further.length + 1) 72 128 0 plain further

end Census.Network.Name.Punycode
