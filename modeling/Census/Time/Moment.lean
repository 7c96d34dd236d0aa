import Census.Time.Calendar
/-! Moments as reports and queries give them: the reading of a clock, to the microsecond, and the
offset of that clock from UTC where it is known. Readings lie in the years 1 to 9999; the instant
meant may lie outside. -/
namespace Census.Time

/-- Microseconds. -/
def second : Int := 1000000
def day : Int := 86400 * second

def firstReading : Int := -719162 * day
def lastReading : Int := 2932897 * day - 1

structure Moment where
  /-- Microseconds since 1970-01-01T00:00 as the clock shows them. -/
  reading : Int
  /-- Microseconds by which the clock is ahead of UTC; none where nothing is known. -/
  offset : Option Int
  inRange : firstReading ≤ reading ∧ reading ≤ lastReading
  offset_lt : ∀ o ∈ offset, -day < o ∧ o < day
deriving DecidableEq

namespace Moment

def make? (reading : Int) (offset : Option Int) : Option Moment :=
  if h : firstReading ≤ reading ∧ reading ≤ lastReading then
    match offset with
    | none => some ⟨reading, none, h, by simp⟩
    | some o =>
      if ho : -day < o ∧ o < day then some ⟨reading, some o, h, by simpa using ho⟩ else none
  else none

def utc? (micros : Int) : Option Moment :=
  make? micros (some 0)

def instant? (m : Moment) : Option Int :=
  m.offset.map fun o => m.reading - o

/-- The instant of a moment; a clock of unknown offset is taken to show UTC. -/
def instant (m : Moment) : Int :=
  m.reading - m.offset.getD 0

def assumeUtc (m : Moment) : Moment :=
  match m with
  | ⟨reading, none, h, _⟩ => ⟨reading, some 0, h, by decide⟩
  | m => m

/-- The reading of a UTC clock at the same instant, unless it leaves the range. A moment of
unknown offset stays as it is. -/
def toUtc? (m : Moment) : Option Moment :=
  match m.offset with
  | none => some m
  | some _ => utc? m.instant

/-- Two moments agree if both have a known offset and are one instant, or neither has one and the
readings are equal. -/
def agrees (a b : Moment) : Bool :=
  match a.instant?, b.instant? with
  | some x, some y => x == y
  | none, none => a.reading == b.reading
  | _, _ => false

def date (m : Moment) : Date :=
  Date.ofDay (m.reading / day)

def hour (m : Moment) : Nat := (m.reading % day / (3600 * second)).toNat
def minute (m : Moment) : Nat := (m.reading % (3600 * second) / (60 * second)).toNat
def seconds (m : Moment) : Nat := (m.reading % (60 * second) / second).toNat
def micros (m : Moment) : Nat := (m.reading % second).toNat

@[simp] theorem offset_assumeUtc (m : Moment) : m.assumeUtc.offset = some (m.offset.getD 0) := by
  rcases m with ⟨reading, _ | o, h, ho⟩ <;> rfl

@[simp] theorem instant_assumeUtc (m : Moment) : m.assumeUtc.instant = m.instant := by
  rcases m with ⟨reading, _ | o, h, ho⟩ <;> rfl

end Moment

end Census.Time
