import Census.Dashboard.Script
import Census.Web.Range
import Census.Web.Request
import Census.Web.Response
/-! The files of the server: the script of the dashboard is the only one. It holds ASCII only, so
that places in it can be counted in characters. -/
namespace Census.Web.Files

open Text

/-- The steps of a path that lead somewhere; two points go back. Those that go back further than the
path leads stand first. -/
def steps (path : List Char) : List (List Char) :=
  (path.splitOn '/').foldl (fun done part =>
    if part = [] ∨ part = ['.'] then done
    else if part = ['.', '.'] ∧ done ≠ [] ∧ done.getLast? ≠ some ['.', '.'] then done.dropLast
    else done ++ [part]) []

def rootSteps : List String := ["callhome", "web", "static"]

/-- What is left of a path that goes back from the root and returns to it. -/
def withinRoot (path : List (List Char)) : List (List Char) :=
  let back := (path.takeWhile (· = ['.', '.'])).length
  let way := (rootSteps.drop (rootSteps.length - back)).map String.toList
  let rest := path.drop back
  if back ≤ rootSteps.length && way.isPrefixOf rest then rest.drop back else path

def content? (path : List Char) : Option (List Char) :=
  if withinRoot (steps path) = ["app.js".toList] then some Dashboard.script.toList else none

/-- The script as a response to a request with a header for parts or without one. Of several parts
that do not meet the whole is sent. -/
def send (range : Option String) (cs : List Char) : Response :=
  let whole := Response.script cs
  match range with
  | none => whole
  | some header =>
    match Range.read cs.length header with
    | .error refusal => .plain refusal.status refusal.message
    | .ok [r] => whole.part (r.cut cs)
    | .ok _ => whole

def months : List String :=
  ["jan", "feb", "mar", "apr", "may", "jun", "jul", "aug", "sep", "oct", "nov", "dec"]

def readDate? (s : String) : Option (List Nat) := do
  let words := ((trim (collapse s)).toList.splitOn ' ')
  let words := if (words.head?.bind List.getLast?) = some ',' then words.drop 1 else words
  let day :: month :: year :: clock :: _ := words | none
  let month ← months.idxOf? (lowerCase (String.ofList month))
  let number? (cs : List Char) : Option Nat :=
    if cs.isEmpty then none else (cs.mapM asciiDigit?).map ofDigits
  let clock ← (clock.splitOn ':').mapM number?
  if clock.length ≠ 3 then none
  return [← number? year, month + 1, ← number? day] ++ clock

def changed : List Nat := [2026, 1, 1, 0, 0, 0]

/-- Whether a client that asks for a file changed since a date needs no answer. A question for other
than a known content goes before. -/
def isUnchanged (headers : List (String × String)) : Bool :=
  header headers "if-none-match" = "" &&
    match readDate? (header headers "if-modified-since") with
    | some date => !(decide (date < changed))
    | none => false

/-- The parts asked for. They count only if the client does not hold another content of the file. -/
def range? (headers : List (String × String)) : Option String :=
  if (headers.lookup "if-range").isSome then none else headers.lookup "range"

def respond (method : String) (headers : List (String × String)) (path : List Char) : Response :=
  if method = "GET" ∨ method = "HEAD" then
    match content? path with
    | some cs => if isUnchanged headers then .unchanged else send (range? headers) cs
    | none => .notFound
  else .notAllowed "GET, HEAD"

end Census.Web.Files
