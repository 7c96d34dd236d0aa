import Census.RateLimit
import Census.Time.Moment
/-! The gate before reports. A report passes if all reports together and those of its client are
within their limits. The gate stays open while the store of marks gives no answer. -/
namespace Census.Web

structure Gate where
  limiter : RateLimiter := {}
  marks : LimitMarks := []

inductive Verdict
  | allowed
  | denied
  | unanswered
deriving DecidableEq, Repr

/-- Whether two verdicts keep a report out; the client's counts only once all reports together are
within their limit. -/
def refuses (whole client : Verdict) : Bool :=
  whole = .denied || (whole = .allowed && client = .denied)

namespace Gate

/-- Asks about a subject at a time in milliseconds. A call that does not arrive is numbered all the
same. -/
def ask (settings : Settings) (reachable : RateLimiter.Subject → Bool) (now : Int)
    (subject : RateLimiter.Subject) (g : Gate) : Verdict × Gate :=
  let (limit, window) := RateLimiter.bounds settings subject
  let (call, limiter) := g.limiter.call subject limit window now
  if reachable subject then
    let (answer, marks) := g.marks.decide .double call
    let verdict : Verdict :=
      match answer with
      | some a => if a.allowed then .allowed else .denied
      | none => .unanswered
    (verdict, ⟨limiter, marks⟩)
  else (.unanswered, ⟨limiter, g.marks⟩)

def check (settings : Settings) (reachable : RateLimiter.Subject → Bool) (now : Int)
    (client : String) (g : Gate) : Bool × Gate :=
  match g.ask settings reachable now .global with
  | (.allowed, g) =>
    let (verdict, g) := g.ask settings reachable now (.client client)
    (refuses .allowed verdict, g)
  | (verdict, g) => (refuses verdict .unanswered, g)

/-- Reports pass the gate, whichever slashes end their path. -/
def guards (settings : Settings) (method : String) (path : List Char) : Bool :=
  method == "POST" && (path.reverse.dropWhile (· = '/')).reverse == "/telemetry".toList &&
    settings.rateLimitEnabled

def milliseconds (now : Time.Moment) : Int :=
  RateLimiter.milliseconds (Number.ofScaled now.instant 6)

end Gate

end Census.Web
