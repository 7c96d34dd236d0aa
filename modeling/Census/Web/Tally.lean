import Census.Text.Quoted
/-! The tally of answered requests, by method, route and status. -/
namespace Census.Web

structure Mark where
  method : String
  route : String
  status : Nat
deriving DecidableEq, Repr

abbrev Tally := List Mark

namespace Tally

def labelText (s : String) : String :=
  String.ofList (s.toList.flatMap fun c =>
    if c = '\\' then ['\\', '\\']
    else if c = '\n' then ['\\', 'n']
    else if c = Text.doubleQuote then ['\\', Text.doubleQuote]
    else [c])

def labelsText (labels : List (String × String)) : String :=
  ",".intercalate (labels.map fun (name, value) => name ++ "=\"" ++ labelText value ++ "\"")

def line (name : String) (labels : List (String × String)) (n : Nat) : String :=
  name ++ "\x7b" ++ labelsText labels ++ "\x7d " ++ toString n ++ ".0"

def requestLine (t : Tally) (m : Mark) : String :=
  line "callhome_api_requests_total"
    [("method", m.method), ("route", m.route), ("status", toString m.status)] (t.count m)

/-- How many durations were taken of a method and a route: one for each request. -/
def durationLine (t : Tally) (m : Mark) : String :=
  line "callhome_api_request_latency_seconds_count"
    [("method", m.method), ("route", m.route)]
    (t.countP fun other => other.method == m.method && other.route == m.route)

def lines (t : Tally) : List String :=
  ((t.map t.requestLine ++ t.map t.durationLine).eraseDups).mergeSort fun a b => !(decide (b < a))

end Tally

end Census.Web
