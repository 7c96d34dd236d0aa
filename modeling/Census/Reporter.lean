import Census.Failure.Basic
import Census.Json.Basic
import Census.Network.Address
import Census.Network.Hardware
import Census.Network.Header
import Census.Network.WebAddress
import Census.Text.Blank
import Census.Text.Utf8
import Census.Time.Written
/-! Reports from a deployment to its home. A round asks the endpoints one by one for the public
address and sends a report; rounds repeat until they are stopped, with a longer wait after a
success. The stop may come at any time: it ends a wait, but a round under way is finished. -/
namespace Census

open Network Time

structure HttpRequest where
  method : String
  url : String
  apiKey : Option String
  body : Option Json

structure HttpReply where
  status : Nat
  body : List UInt8
deriving DecidableEq

/-- The line to the network: answers still to come, requests made, and whether it is closed. -/
structure NetworkLine where
  answers : List (Except Failure HttpReply)
  requests : List HttpRequest
  closed : Bool

namespace NetworkLine

def closedFailure : Failure :=
  .outside .runtime "Cannot send a request, as the client has been closed."

def draftFailure? (r : HttpRequest) : Option Failure :=
  (r.apiKey.bind Header.refusal?).or
    (if r.body.all Json.isFinite then none
      else some (.ofValue "Out of range float values are not JSON compliant"))

/-- A relative address has no place to send to; this is found only when the answer is looked at. -/
def look (address : WebAddress) (answer : Except Failure HttpReply) : Except Failure HttpReply :=
  match answer with
  | .ok reply =>
    if address.isRelative then .error (.ofValue ("unknown url type: " ++ Text.quoted address.text))
    else .ok reply
  | .error f => .error f

/-- Makes a request. An unsound address, a request that cannot be put together and a closed line are
refused before anything is sent; a line without further answers says that the service is
unavailable. -/
def send (line : NetworkLine) (r : HttpRequest) : Except Failure HttpReply × NetworkLine :=
  match (WebAddress.read? r.url.toList).map WebAddress.requested, draftFailure? r with
  | none, _ => (.error WebAddress.refusal, line)
  | some _, some f => (.error f, line)
  | some address, none =>
    if line.closed then (.error closedFailure, line)
    else
      let r := { r with url := address.text }
      let line' := { line with requests := line.requests ++ [r], answers := line.answers.tail }
      match line.answers with
      | [] => (look address (.ok ⟨503, []⟩), line')
      | a :: _ => (look address a, line')

def close (line : NetworkLine) : NetworkLine :=
  { line with closed := true }

end NetworkLine

structure Reporter where
  service : String
  version : String
  homeUrl : String := "https://deployments.absmach.eu/telemetry"
  apiKey : String := "77e04a7c-f207-40dd-8950-c344871fd516"
  interval : Number := .int 1800
  backoff : Number := .float 10.0
  endpoints : List String :=
    ["https://checkip.amazonaws.com/", "https://ipinfo.io/ip", "https://api.ipify.org/"]
  deploymentId : String
  node : Nat

namespace Reporter

def isSuccess (status : Nat) : Bool :=
  200 ≤ status && status < 300

/-- The address in the text of a reply, without line ends and backslashes. -/
def addressIn (body : List UInt8) : Option Network.Address :=
  let text := (Text.Utf8.decodeLossy body).filter fun c => c ≠ '\n' && c ≠ '\\'
  Network.Address.read? (Text.trimBy Text.isBlank text)

def isPassable (f : Failure) : Bool :=
  f.isA .http || f.isA .value

/-- Asks the endpoints in their order; the first that names an address wins. The text is empty if
none does. -/
def publicAddress : List String → NetworkLine → Except Failure String × NetworkLine
  | [], line => (.ok "", line)
  | url :: rest, line =>
    match line.send ⟨"GET", url, none, none⟩ with
    | (.error f, line) => if isPassable f then publicAddress rest line else (.error f, line)
    | (.ok reply, line) =>
      match (if isSuccess reply.status then addressIn reply.body else none) with
      | some address => (.ok address.text, line)
      | none => publicAddress rest line

def report (r : Reporter) (now : Moment) (address : String) : Json :=
  .object [
    ("service", .string r.service),
    ("ip_address", .string address),
    ("mac_address", .string (Network.hardwareAddress r.node)),
    ("deployment_id", .string r.deploymentId),
    ("magistrala_version", .string r.version),
    ("last_seen", .string now.text)]

def sendReport (r : Reporter) (report : Json) (line : NetworkLine) :
    Except Failure Unit × NetworkLine :=
  match line.send ⟨"POST", r.homeUrl, some r.apiKey, some report⟩ with
  | (.error f, line) => (.error f, line)
  | (.ok reply, line) =>
    (if reply.status = 201 then .ok () else .error (.httpStatus reply.status), line)

def reportOnce (r : Reporter) (now : Moment) (line : NetworkLine) : Bool × NetworkLine :=
  match publicAddress r.endpoints line with
  | (.error _, line) => (false, line)
  | (.ok address, line) =>
    if address = "" then (false, line)
    else
      let (sent, line) := r.sendReport (r.report now address) line
      (sent.toBool, line)

def delay (r : Reporter) (sent : Bool) : Number :=
  if sent then r.interval else r.backoff

inductive Stage
  | deciding
  | reporting
  | waiting (limit : Number)
  | ended
deriving DecidableEq

/-- What a reporter has done. A report is made at a time, on the line as it is found. -/
inductive Deed
  | start
  | report (now : Moment) (line : NetworkLine)
  | wait (limit : Number)
  | close

def Deed.limit? : Deed → Option Number
  | .wait limit => some limit
  | _ => none

structure Work where
  stage : Stage
  stopped : Bool
  line : NetworkLine
  log : List Deed

inductive Signal
  | stop
  | expire
  | proceed (now : Moment)

/-- Goes on by one step. Out of a wait this leads only after the stop. -/
def proceed (r : Reporter) (now : Moment) (w : Work) : Work :=
  match w.stage with
  | .deciding =>
    if w.stopped then
      { w with stage := .ended, line := w.line.close, log := w.log ++ [.close] }
    else { w with stage := .reporting, log := w.log ++ [.start] }
  | .reporting =>
    let (sent, line) := r.reportOnce now w.line
    { w with
      stage := .waiting (r.delay sent)
      line := line
      log := w.log ++ [.report now w.line, .wait (r.delay sent)] }
  | .waiting _ => if w.stopped then { w with stage := .deciding } else w
  | .ended => w

def step (r : Reporter) (w : Work) : Signal → Work
  | .stop => { w with stopped := true }
  | .expire =>
    match w.stage with
    | .waiting _ => { w with stage := .deciding }
    | _ => w
  | .proceed now => r.proceed now w

def work (r : Reporter) (line : NetworkLine) (signals : List Signal) : Work :=
  signals.foldl r.step ⟨.deciding, false, line, []⟩

/-- A number of rounds; the stop comes in the wait after the last of them. -/
def timetable (now : Moment) (rounds : Nat) : List Signal :=
  (List.replicate rounds [.expire, .proceed now, .proceed now]).flatten ++
    [.stop, .proceed now, .proceed now]

/-- The waits of a number of rounds, and the line after the stop. -/
def run (r : Reporter) (now : Moment) (rounds : Nat) (line : NetworkLine) :
    List Number × NetworkLine :=
  let w := r.work line (timetable now rounds)
  (w.log.filterMap Deed.limit?, w.line)

end Reporter

end Census
