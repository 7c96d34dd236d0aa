import Census.Text.Digit
import Census.Time.Moment
/-! The written form of moments, `2024-03-01T12:00:00.250000+01:00`, and reading it back. The
fraction is left out when it is zero, the offset when it is unknown. Messages write a zero offset
as `Z`, and nothing of an offset below the minute. -/
namespace Census.Time

open Census.Text

def padded : (width : Nat) → Nat → List Char
  | 0, _ => []
  | width + 1, n => padded width (n / 10) ++ [Nat.digitChar (n % 10)]

inductive Fraction
  | never
  | always
  | nonzero
deriving DecidableEq

def writeMinutes (o : Int) : List Char :=
  let n := o.natAbs / 1000000
  (if o < 0 then '-' else '+') :: padded 2 (n / 3600) ++ ':' :: padded 2 (n / 60 % 60)

def writeOffset (o : Int) : List Char :=
  let rest := o.natAbs % 60000000
  let fraction := if rest % 1000000 = 0 then [] else '.' :: padded 6 (rest % 1000000)
  writeMinutes o ++ (if rest = 0 then [] else ':' :: padded 2 (rest / 1000000) ++ fraction)

def Moment.writeReading (m : Moment) (f : Fraction) : List Char :=
  let fraction :=
    match f with
    | .never => []
    | .always => '.' :: padded 6 m.micros
    | .nonzero => if m.micros = 0 then [] else '.' :: padded 6 m.micros
  padded 4 m.date.year.toNat ++ '-' :: padded 2 m.date.month ++ '-' :: padded 2 m.date.day ++
    'T' :: padded 2 m.hour ++ ':' :: padded 2 m.minute ++ ':' :: padded 2 m.seconds ++ fraction

def Moment.write (m : Moment) (f : Fraction) : List Char :=
  m.writeReading f ++ (match m.offset with
    | none => []
    | some o => writeOffset o)

def Moment.text (m : Moment) : String :=
  String.ofList (m.write .nonzero)

def Moment.wireText (m : Moment) : String :=
  String.ofList (m.writeReading .nonzero ++ (match m.offset with
    | none => []
    | some o => if o = 0 then ['Z'] else writeMinutes o))

def takeNumber (width : Nat) (cs : List Char) : Option (Nat × List Char) :=
  let ds := (cs.take width).filterMap asciiDigit?
  if ds.length = width then some (ofDigits ds, cs.drop width) else none

def takeDate (cs : List Char) : Option (Date × List Char) := do
  let (year, cs) ← takeNumber 4 cs
  let '-' :: cs := cs | none
  let (month, cs) ← takeNumber 2 cs
  let '-' :: cs := cs | none
  let (day, cs) ← takeNumber 2 cs
  let date : Date := ⟨year, month, day⟩
  if date.IsValid ∧ 1 ≤ year then some (date, cs) else none

/-- Six digits of a fraction, from any number of digits; further ones are cut off. -/
def fractionMicros (ds : List Nat) : Nat :=
  ofDigits ((ds ++ List.replicate 6 0).take 6)

/-- A clock time at the head, in microseconds. Seconds may be left out, and a fraction follows a
point or a comma. -/
def takeClock (cs : List Char) : Option (Int × List Char) := do
  let (hour, cs) ← takeNumber 2 cs
  let ':' :: cs := cs | none
  let (minute, cs) ← takeNumber 2 cs
  if 24 ≤ hour ∨ 60 ≤ minute then none
  let base : Int := (hour * 3600 + minute * 60 : Nat)
  let ':' :: cs := cs | some (base * second, cs)
  let (sec, cs) ← takeNumber 2 cs
  if 60 ≤ sec then none
  let base := base + sec
  match cs with
  | c :: rest =>
    if c = '.' ∨ c = ',' then
      let ds := (rest.takeWhile fun d => (asciiDigit? d).isSome).filterMap asciiDigit?
      if ds.isEmpty then none else some (base * second + fractionMicros ds, rest.drop ds.length)
    else some (base * second, cs)
  | [] => some (base * second, [])

def takeSeconds (cs : List Char) : Option (Int × List Char) := do
  let (secs, cs) ← takeNumber 2 cs
  if 60 ≤ secs then none
  match cs with
  | '.' :: rest => (takeNumber 6 rest).map fun (micros, cs) => (secs * second + micros, cs)
  | _ => some (secs * second, cs)

/-- An offset of less than a day that is the rest of a text: nothing, a `Z`, or a sign with hours,
minutes and, in the written form, seconds. -/
def readOffset? (withSeconds : Bool) (cs : List Char) : Option (Option Int) :=
  match cs with
  | [] => some none
  | ['Z'] => some (some 0)
  | ['z'] => some (some 0)
  | sign :: cs => do
    if sign ≠ '+' ∧ sign ≠ '-' ∧ sign ≠ '\u2212' then none
    let (hours, cs) ← takeNumber 2 cs
    let cs := match cs with
      | ':' :: rest => rest
      | rest => rest
    let (minutes, cs) ← takeNumber 2 cs
    if 24 ≤ hours ∨ 60 ≤ minutes then none
    let (rest, cs) ← match withSeconds, cs with
      | true, ':' :: cs => takeSeconds cs
      | _, cs => some (0, cs)
    if !cs.isEmpty then none
    let total := (hours * 3600 + minutes * 60 : Nat) * second + rest
    return some (if sign = '+' then total else -total)

def readParts? (withSeconds : Bool) (cs : List Char) : Option Moment := do
  let (date, cs) ← takeDate cs
  let separator :: cs := cs | none
  if separator ≠ 'T' ∧ separator ≠ 't' ∧ separator ≠ ' ' ∧ separator ≠ '_' then none
  let (clock, cs) ← takeClock cs
  let offset ← readOffset? withSeconds cs
  Moment.make? (date.toDay * day + clock) offset

def Moment.ofText? (s : String) : Option Moment :=
  readParts? true s.toList

end Census.Time
