import Census.Dashboard.Serve
import Census.Intake
import Census.Web.Files
import Census.Web.Gate
import Census.Web.Query
import Census.Web.Report
import Census.Web.Route
import Census.Web.Tally
/-! The server: from a request and the state of its peers to a response, with what happens in the
database on the way. -/
namespace Census.Web

variable {σ : Type}

structure Peers where
  now : Time.Moment
  /-- A clock of seconds that never goes back. -/
  clock : Float
  database : Store.Database
  locations : LocationDatabase
  reachable : RateLimiter.Subject → Bool

structure Server (σ : Type) where
  settings : Settings
  templates : Dashboard.Templates
  cache : Cache Answer σ
  gate : Gate := {}
  tally : Tally := []
  /-- Reads the path from the whole address of a request, which the framework puts together. -/
  addressPath : Request → List Char := fun r => r.target.addressPath

inductive Resource
  | locations
  | pool
deriving DecidableEq, Repr

namespace Server

/-- Starts a server: it must find a valid size of its cache, the tables if it has to make them, and
the database of places. -/
def start [RandomSource σ] (settings : Settings) (templates : Dashboard.Templates) (random : σ)
    (db : Store.Database) (refusal : Option Failure) (locations : LocationDatabase) :
    Store.Traced (Server σ) := do
  let cache ← .ofExcept (Cache.make
    ⟨settings.cacheNumCounters, settings.cacheMaxCost, settings.cacheBufferItems⟩ random)
  .emit .pool
  if settings.dbAutoMigrate then Store.createSchema db
  let _ ← .ofExcept (Location.openDatabase settings.ipDatabaseFile refusal locations)
  return { settings, templates, cache }

def released : List Resource := [.locations, .pool]

def metricsJson (c : Cache Answer σ) : Json :=
  .object [
    ("hits", .int c.metrics.hits),
    ("misses", .int c.metrics.misses),
    ("keys_added", .int c.metrics.keysAdded),
    ("keys_updated", .int c.metrics.keysUpdated),
    ("keys_evicted", .int c.metrics.keysEvicted),
    ("sets_rejected", .int c.metrics.setsRejected),
    ("cost_used", .int c.usedCost)]

def healthJson (c : Cache Answer σ) : Json :=
  .object [
    ("status", .string "healthy"),
    ("service", .string "callhome"),
    ("cache", metricsJson c)]

def badQuery : Response := .error 400 "invalid query params"

def report (p : Peers) (r : Request) : Store.Traced Response :=
  match readReport r.headers r.body with
  | .error refusal => return refusal.response
  | .ok s => do
    let _ ← Intake.save p.locations p.database p.now s.toRecord
    return .json 201 (.object [])

def page (settings : Settings) (p : Peers) (r : Request) : Store.Traced Response := do
  match ← .ofExcept (QueryFields.page settings p.now r.fields) with
  | none => return badQuery
  | some (part, filters) =>
    let page ← Store.retrievePage settings p.database part filters
    return .json 200 page.toJson

def summary (settings : Settings) (p : Peers) (r : Request) : Store.Traced Response := do
  match ← .ofExcept (QueryFields.filters settings p.now r.fields) with
  | none => return badQuery
  | some filters =>
    let summary ← Store.retrieveSummary settings p.database filters
    return .json 200 (← .ofExcept summary.toJson)

def dashboard [RandomSource σ] (s : Server σ) (p : Peers) (r : Request) :
    Serving σ Response := do
  match ← Serving.ofExcept (QueryFields.filters s.settings p.now r.fields) with
  | none => return badQuery
  | some filters =>
    return .markup (← Dashboard.serve s.settings s.templates p.database p.clock filters)

def operate [RandomSource σ] (s : Server σ) (p : Peers) (r : Request) : Route → Serving σ Response
  | .report => Serving.lift (report p r)
  | .page => Serving.lift (page s.settings p r)
  | .summary => Serving.lift (summary s.settings p r)
  | .dashboard => dashboard s p r
  | .health => Serving.use fun c => (.json 200 (healthJson c), c)
  | .metrics => return .metrics s.tally.lines

def dispatch [RandomSource σ] (s : Server σ) (p : Peers) (r : Request) : Destination →
    Serving σ Response
  | .operation route => operate s p r route
  | .otherMethod route => return .notAllowed route.method
  | .file path => return Files.respond r.method r.headers path
  | .elsewhere path => return .redirect (address r.target.scheme r.host path r.target.query)
  | .nowhere => return .notFound

def settle : Except Failure Response → Response
  | .ok response => response
  | .error f => .ofFailure f

/-- Counts a response and sends it; an inquiry for the head alone gets no body. -/
def send (s : Server σ) (r : Request) (label : String) (response : Response) :
    Response × Server σ :=
  (if r.method = "HEAD" then response.bare else response,
    { s with tally := s.tally ++ [⟨r.method, label, response.status⟩] })

/-- Whether the gate keeps a request out. It takes the path from the address, the routes do not. -/
def admission (s : Server σ) (p : Peers) (r : Request) : Bool × Gate :=
  match Gate.guards s.settings r.method (s.addressPath r) with
  | true => s.gate.check s.settings p.reachable (Gate.milliseconds p.now) r.client
  | false => (false, s.gate)

/-- Answers a request. The gate comes before the routes. -/
def respond [RandomSource σ] (s : Server σ) (p : Peers) (r : Request) :
    List Store.Event × Response × Server σ :=
  let (refused, gate) := s.admission p r
  let s := { s with gate := gate }
  match refused with
  | true => ([], s.send r Destination.nowhere.label .limited)
  | false =>
    let destination := Destination.find r.method r.target.path
    let (t, cache) := s.dispatch p r destination s.cache
    (t.events, { s with cache := cache }.send r destination.label (settle t.result))

end Server

end Census.Web
