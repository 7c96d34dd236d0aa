import Census.Failure.Basic
import Census.Number.Basic
import Census.Settings.Basic
import Census.Table
/-! Limits on how often something may happen in a sliding window of time. Allowed calls leave a
mark with their time, in milliseconds; a call is allowed while fewer marks than the limit lie in
the window. The store of marks computes with doubles; up to `2 ^ 53` that is exact. -/
namespace Census

/-- The mark of an allowed call. The members of one limiter are all different. -/
structure LimitMark where
  score : Int
  member : String
deriving DecidableEq

abbrev LimitMarks := Table (List LimitMark)

structure LimitCall where
  key : String
  now : Int
  windowStart : Int
  limit : Int
  window : Int
  member : String
deriving DecidableEq

structure LimitAnswer where
  allowed : Bool
  remaining : Int
deriving DecidableEq

namespace LimitMarks

def marks (m : LimitMarks) (key : String) : List LimitMark :=
  (m.get? key).getD []

/-- Marks that have left the window are those from zero up to its start. -/
def expired (windowStart : Int) (mark : LimitMark) : Bool :=
  0 ≤ mark.score && mark.score ≤ windowStart

/-- Whether the store can write a life of a key. Doubles of more than seventeen digits are written
with an exponent, which no life may have. -/
def canLive (p : Number.Precision) (life : Int) : Bool :=
  match p with
  | .exact => true
  | .double => life.natAbs < 100000000000000000

/-- Decides on a call and marks it if it is allowed. Keys live for two windows: a window that is not
positive leaves no marks at all, and a life that cannot be written leaves the call without an
answer, though marked. -/
def decide (p : Number.Precision) (m : LimitMarks) (c : LimitCall) :
    Option LimitAnswer × LimitMarks :=
  let kept := (m.marks c.key).filter fun mark => !expired (p.keep c.windowStart) mark
  let count : Int := kept.length
  let limit := p.keep c.limit
  let life := p.keep c.window * 2
  if count < limit then
    let marked := kept.filter (·.member != c.member) ++ [⟨p.keep c.now, c.member⟩]
    if !canLive p life then (none, m.put c.key marked)
    else
      (some ⟨true, p.keep (p.keep (limit - count) - 1)⟩,
        if life ≤ 0 then m.remove c.key else m.put c.key marked)
  else (some ⟨false, 0⟩, m.put c.key kept)

end LimitMarks

/-- A limiter counts its calls, so that each has a name of its own. -/
structure RateLimiter where
  sequence : Nat := 0
deriving DecidableEq, Repr

namespace RateLimiter

inductive Subject
  | global
  | client (name : String)
  | other (name : String)
deriving DecidableEq, Repr

def Subject.name : Subject → String
  | global => "global"
  | client name => "client:" ++ name
  | other name => name

def milliseconds (seconds : Float) : Int :=
  (Number.truncate? (seconds * 1000.0)).getD 0

def call (l : RateLimiter) (subject : Subject) (limit window now : Int) :
    LimitCall × RateLimiter :=
  let n := l.sequence + 1
  ({ key := "callhome:ratelimit:" ++ subject.name
     now := now
     windowStart := now - window * 1000
     limit := limit
     window := window
     member := toString now ++ ":" ++ toString n }, ⟨n⟩)

def bounds (s : Settings) : Subject → Int × Int
  | .global => (s.rateLimitGlobalPerSecond, 1)
  | _ => (s.rateLimitPerClient, s.rateLimitWindowSeconds)

end RateLimiter

end Census
