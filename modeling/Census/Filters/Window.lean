import Census.Filters.Basic
import Census.Settings.Basic
import Census.Time.Rounding
/-! The window of time that a query asks for. A bound that is not given is the present, or the
present less a number of days, rounded to a period. -/
namespace Census

open Time Number

structure Selection where
  start : Option Moment
  stop : Option Moment
  country : String
  city : String
  version : String
  service : String
deriving DecidableEq

namespace Filters

/-- The bound given, or a default rounded to the period. -/
def bound (precision : Precision) (period : Int) (given : Option Moment)
    (fallback : Except Failure Moment) : Except Failure Moment :=
  match given with
  | some m => .ok m
  | none => do (← fallback).roundTo precision period

/-- The filters of a query, with a window whose bounds have known offsets and are in order. -/
def ofSelection (precision : Precision) (settings : Settings) (now : Moment) (q : Selection) :
    Except Failure Filters := do
  let period := wholeSeconds (← span (settings.roundPeriodSeconds * second))
  let start ← bound precision period q.start do
    now.shift (-(← span (settings.defaultWindowDays * day)))
  let stop ← bound precision period q.stop (.ok now)
  let start := start.assumeUtc
  let stop := stop.assumeUtc
  if stop.instant < start.instant then .error .queryRange
  else .ok ⟨some start, some stop, q.country, q.city, q.version, q.service⟩

end Filters

end Census
