import Census.Proofs.Store.Saving
import Census.Proofs.Time.Calendar
import Census.Proofs.Web.Gate
import Census.Web.Server

/-! Reports from the gate to the database. Of all that can turn a report away the first decides on
the status, and reports are acknowledged exactly if the database keeps their row. -/
namespace Census.Web

section Statuses

theorem status_ofFailure_location {f : Failure} (h : f.isA .location = true) :
    (Response.ofFailure f).status = 400 := by
  have hstatus : Response.statusOf f = some 400 := by simp [Response.statusOf, h]
  unfold Response.ofFailure
  rw [hstatus]
  rfl

theorem isA_of_saving {k : FailureKind} (h : k.isA .saving = true) :
    (k.isA .query || k.isA .location) = false := by
  cases k <;> first | rfl | cases h

theorem status_ofFailure_tells {f : Failure} {refused : Bool} (h : Store.Tells f refused) :
    (Response.ofFailure f).status = if refused then 403 else 500 := by
  have hstatus : Response.statusOf f = some (if refused then 403 else 500) := by
    have hother : (f.isA .query || f.isA .location) = false := isA_of_saving h.saving
    simp only [Response.statusOf, hother, h.saving, h.cause, Bool.false_eq_true, if_false, if_true]
  unfold Response.ofFailure
  rw [hstatus]
  rfl

end Statuses

/-- The peers of a report fail in kinds of their own. -/
structure Peers.Usual (p : Peers) : Prop where
  database : p.database.Usual
  place : ∀ ip f, Location.find p.locations ip = .error f → f.isA .location = true

def submission? (r : Request) : Option Submission :=
  match Submission.ofBytes r.body with
  | .ok s => some s
  | .error _ => none

def place? (p : Peers) (s : Submission) : Option Location :=
  (Location.find p.locations (some s.ipAddress)).toOption

/-- The record that a request leaves if nothing turns it away. -/
def record? (p : Peers) (r : Request) : Option Record := do
  let s ← submission? r
  let location ← place? p s
  return Intake.complete p.now location s.toRecord

structure Ground where
  holds : Bool
  status : Nat

def firstStatus (otherwise : Nat) : List Ground → Nat
  | [] => otherwise
  | g :: rest => if g.holds then g.status else firstStatus otherwise rest

namespace Server

def contentGrounds (p : Peers) (r : Request) : List Ground :=
  [⟨!Text.occursIn mediaType (header r.headers "content-type").toList, 415⟩,
   ⟨(submission? r).isNone, 400⟩,
   ⟨(submission? r).any fun s => (place? p s).isNone, 400⟩,
   ⟨p.database.refuses, 403⟩,
   ⟨p.database.fails, 500⟩]

/-- Whether the database keeps the record of a request if the status says so, and only then. -/
structure Acknowledges (p : Peers) (r : Request) (events : List Store.Event) (status : Nat) :
    Prop where
  kept : status = 201 → ∃ record, record? p r = some record ∧
    Store.kept p.database [] events = [Store.insertStatement p.now record]
  otherwise : status ≠ 201 → Store.kept p.database [] events = []

theorem acknowledges_of_no_events {p : Peers} {r : Request} {status : Nat} (h : status ≠ 201) :
    Acknowledges p r [] status where
  kept := fun hstatus => absurd hstatus h
  otherwise := fun _ => rfl

theorem ne_empty_of_find {db : LocationDatabase} {ip : String} {location : Location}
    (h : Location.find db (some ip) = .ok location) : ip ≠ "" := by
  rintro rfl
  cases h

structure Settles (p : Peers) (r : Request) : Prop where
  status : (settle (report p r).result).status = firstStatus 201 (contentGrounds p r)
  acknowledges : Acknowledges p r (report p r).events (settle (report p r).result).status

theorem Settles.of_no_events {p : Peers} {r : Request} {result : Except Failure Response}
    (hreport : report p r = ⟨[], result⟩) {status : Nat} (hstatus : (settle result).status = status)
    (hgrounds : firstStatus 201 (contentGrounds p r) = status) (hnot : status ≠ 201) :
    Settles p r where
  status := by rw [hreport, hstatus, hgrounds]
  acknowledges := by
    rw [hreport, hstatus]
    exact acknowledges_of_no_events hnot

section Stages

variable {p : Peers} {r : Request} {s : Submission}

theorem settles_of_mediaType
    (htype : Text.occursIn mediaType (header r.headers "content-type").toList = false) :
    Settles p r := by
  have hreport : report p r = ⟨[], .ok (ReportRefusal.response .mediaType)⟩ := by
    simp only [report, readReport, htype]
    rfl
  refine .of_no_events hreport rfl ?_ (show 415 ≠ 201 by decide)
  simp only [contentGrounds, htype]
  rfl

theorem settles_of_malformed
    (htype : Text.occursIn mediaType (header r.headers "content-type").toList = true)
    {faults : List Fault} (hs : Submission.ofBytes r.body = .error faults) : Settles p r := by
  have hreport : report p r = ⟨[], .ok (ReportRefusal.response (.malformed faults.length))⟩ := by
    simp only [report, readReport, htype, hs]
    rfl
  have hnone : submission? r = none := by simp only [submission?, hs]
  refine .of_no_events hreport rfl ?_ (show 400 ≠ 201 by decide)
  simp only [contentGrounds, htype, hnone]
  rfl

theorem report_of_submission
    (htype : Text.occursIn mediaType (header r.headers "content-type").toList = true)
    (hs : Submission.ofBytes r.body = .ok s) : report p r = (do
      let _ ← Intake.save p.locations p.database p.now s.toRecord
      return .json 201 (.object [])) := by
  simp only [report, readReport, htype, hs, if_true]

theorem settles_of_placeless (hp : p.Usual)
    (htype : Text.occursIn mediaType (header r.headers "content-type").toList = true)
    (hs : Submission.ofBytes r.body = .ok s) {f : Failure}
    (hplace : Location.find p.locations (some s.ipAddress) = .error f) : Settles p r := by
  have hsave : Intake.save p.locations p.database p.now s.toRecord = ⟨[], .error f⟩ := by
    unfold Intake.save
    rw [Store.Traced.bind_of_error (e := f) hplace]
    rfl
  have hreport : report p r = ⟨[], .error f⟩ := by
    rw [report_of_submission htype hs, hsave]
    rfl
  have hsome : submission? r = some s := by simp only [submission?, hs]
  have hnone : place? p s = none := by simp only [place?, hplace]; rfl
  refine .of_no_events hreport (status_ofFailure_location (hp.place _ f hplace)) ?_ (by decide)
  simp only [contentGrounds, htype, hsome, Option.any_some, hnone]
  rfl

theorem report_of_place
    (htype : Text.occursIn mediaType (header r.headers "content-type").toList = true)
    (hs : Submission.ofBytes r.body = .ok s) {location : Location}
    (hplace : Location.find p.locations (some s.ipAddress) = .ok location) :
    let saved := Store.save p.database p.now (Intake.complete p.now location s.toRecord)
    report p r = ⟨saved.events, saved.result.map fun _ => .json 201 (.object [])⟩ := by
  intro saved
  have hsave : Intake.save p.locations p.database p.now s.toRecord =
      ⟨saved.events, saved.result.map fun _ => Intake.complete p.now location s.toRecord⟩ := by
    unfold Intake.save
    rw [Store.Traced.bind_of_ok (a := location) hplace]
    cases hsaved : saved.result with
    | ok a =>
      rw [Store.Traced.bind_of_ok hsaved]
      simp [saved, Store.Traced.ofExcept, Pure.pure, Store.Traced.pure, Except.map]
    | error f =>
      rw [Store.Traced.bind_of_error hsaved]
      simp [saved, Store.Traced.ofExcept, Except.map]
  rw [report_of_submission htype hs, hsave]
  cases saved.result with
  | ok a => simp [Bind.bind, Store.Traced.bind, Except.map, Pure.pure, Store.Traced.pure]
  | error f => rfl

theorem settles_of_place (hp : p.Usual)
    (htype : Text.occursIn mediaType (header r.headers "content-type").toList = true)
    (hs : Submission.ofBytes r.body = .ok s) {location : Location}
    (hplace : Location.find p.locations (some s.ipAddress) = .ok location) : Settles p r := by
  have hsome : submission? r = some s := by simp only [submission?, hs]
  have hfound : place? p s = some location := by simp only [place?, hplace]; rfl
  have hrecord : record? p r = some (Intake.complete p.now location s.toRecord) := by
    simp only [record?, hsome, Option.bind_eq_bind, Option.bind_some, hfound]
    rfl
  have hgrounds : firstStatus 201 (contentGrounds p r) =
      if p.database.refuses then 403 else if p.database.fails then 500 else 201 := by
    simp only [contentGrounds, htype, hsome, Option.any_some, hfound]
    rfl
  have hreport : report p r = _ := report_of_place htype hs hplace
  obtain ⟨hkept, hresult⟩ := Store.save_result hp.database p.now
    (r := Intake.complete p.now location s.toRecord) (ne_empty_of_find hplace)
  generalize Store.save p.database p.now (Intake.complete p.now location s.toRecord) = saved at *
  cases hsaved : saved.result with
  | ok _ =>
    rw [hsaved] at hresult hreport
    have hrefuses : p.database.refuses = false := by
      rw [← Bool.not_eq_true]
      intro hrefuses
      rw [Store.Database.fails_of_refuses hrefuses] at hresult
      cases hresult
    simp only [hresult, Bool.false_eq_true, if_false] at hkept
    simp only [hrefuses, hresult, Bool.false_eq_true, if_false] at hgrounds
    constructor
    · rw [hreport, hgrounds]
      rfl
    · rw [hreport]
      exact ⟨fun _ => ⟨_, hrecord, hkept⟩, fun hstatus => absurd rfl hstatus⟩
  | error f =>
    rw [hsaved] at hresult hreport
    obtain ⟨hfails, htells⟩ := hresult
    have hstatus := status_ofFailure_tells htells
    simp only [hfails, if_true] at hkept hgrounds
    constructor
    · rw [hreport, hgrounds]
      exact hstatus
    · rw [hreport]
      refine ⟨fun h => absurd (hstatus.symm.trans h) ?_, fun _ => hkept⟩
      split <;> decide

end Stages

theorem settles_report {p : Peers} (hp : p.Usual) (r : Request) : Settles p r := by
  cases htype : Text.occursIn mediaType (header r.headers "content-type").toList with
  | false => exact settles_of_mediaType htype
  | true =>
    cases hs : Submission.ofBytes r.body with
    | error faults => exact settles_of_malformed htype hs
    | ok s =>
      cases hplace : Location.find p.locations (some s.ipAddress) with
      | error f => exact settles_of_placeless hp htype hs hplace
      | ok location => exact settles_of_place hp htype hs hplace

section Respond

variable {σ : Type}

theorem find_report {r : Request} (hmethod : r.method = "POST")
    (hpath : Route.report.hasPath r.target.path = true) :
    Destination.find r.method r.target.path = .operation .report := by
  have hfirst : (Route.report.hasPath r.target.path && Route.report.method == r.method) = true := by
    rw [hpath, hmethod]
    rfl
  simp only [Destination.find, Route.all, List.find?_cons, hfirst]

theorem status_send (s : Server σ) (r : Request) (label : String) (response : Response) :
    (s.send r label response).1.status = response.status := by
  unfold send
  split <;> rfl

/-- A request that the gate lets pass is answered by the operation of its route. -/
theorem respond_of_admitted [RandomSource σ] (s : Server σ) {p : Peers} {r : Request}
    {route : Route} (hadmitted : (s.admission p r).1 = false)
    (hfind : Destination.find r.method r.target.path = .operation route) :
    (s.respond p r).1 = (s.operate p r route s.cache).1.events ∧
      (s.respond p r).2.1.status = (settle (s.operate p r route s.cache).1.result).status := by
  rcases hadmission : s.admission p r with ⟨refused, gate⟩
  obtain rfl : refused = false := by rw [hadmission] at hadmitted; exact hadmitted
  -- no operation looks at the gate, which may have changed
  have hgate : { s with gate := gate }.operate p r route = s.operate p r route := by
    cases route <;> rfl
  unfold respond
  rw [hadmission]
  dsimp only
  rw [hfind]
  dsimp only [dispatch]
  rw [hgate, status_send]
  exact ⟨rfl, rfl⟩

theorem respond_of_refused [RandomSource σ] (s : Server σ) (p : Peers) {r : Request}
    (hrefused : (s.admission p r).1 = true) :
    (s.respond p r).1 = [] ∧ (s.respond p r).2.1.status = 429 := by
  rcases hadmission : s.admission p r with ⟨refused, gate⟩
  obtain rfl : refused = true := by rw [hadmission] at hrefused; exact hrefused
  unfold respond
  rw [hadmission]
  exact ⟨rfl, status_send _ _ _ _⟩

/-- Whether the gate keeps a report out: all reports together are over their limit, or those of its
client are. A verdict that the store of marks does not give keeps nothing out. -/
def limited (s : Server σ) (p : Peers) (r : Request) : Bool :=
  let (whole, client) :=
    s.gate.verdicts s.settings p.reachable (Gate.milliseconds p.now) r.client
  s.settings.rateLimitEnabled && (whole = .denied || (whole = .allowed && client = .denied))

theorem admission_report (s : Server σ) (p : Peers) (hread : FindsPath s.addressPath) {r : Request}
    (hmethod : r.method = "POST") (hpath : Route.report.hasPath r.target.path = true) :
    (s.admission p r).1 = s.limited p r := by
  unfold admission limited
  rw [Gate.guards_report s.settings hread hmethod hpath]
  cases s.settings.rateLimitEnabled with
  | false => rfl
  | true =>
    dsimp only
    rw [Gate.check_fst]
    rfl

/-- The grounds on which a report is turned away, in the order in which they count. -/
def grounds (s : Server σ) (p : Peers) (r : Request) : List Ground :=
  ⟨s.limited p r, 429⟩ :: contentGrounds p r

theorem status_respond [RandomSource σ] (s : Server σ) (hread : FindsPath s.addressPath)
    {p : Peers} (hp : p.Usual) {r : Request} (hmethod : r.method = "POST")
    (hpath : Route.report.hasPath r.target.path = true) :
    (s.respond p r).2.1.status = firstStatus 201 (s.grounds p r) ∧
      Acknowledges p r (s.respond p r).1 (s.respond p r).2.1.status := by
  have hadmission := s.admission_report p hread hmethod hpath
  cases hlimited : s.limited p r with
  | true =>
    rw [hlimited] at hadmission
    obtain ⟨hevents, hstatus⟩ := s.respond_of_refused p hadmission
    rw [hevents, hstatus]
    refine ⟨?_, acknowledges_of_no_events (by decide)⟩
    simp only [grounds, firstStatus, hlimited, if_true]
  | false =>
    rw [hlimited] at hadmission
    obtain ⟨hevents, hstatus⟩ := s.respond_of_admitted hadmission (find_report hmethod hpath)
    have hoperate : (s.operate p r .report s.cache).1 = report p r := rfl
    have hsettles := settles_report hp r
    rw [hevents, hstatus, hoperate]
    refine ⟨?_, hsettles.acknowledges⟩
    rw [hsettles.status]
    simp only [grounds, firstStatus, hlimited, Bool.false_eq_true, if_false]

/-- A report gets the status of the first ground against it, whatever else its address says, and it
is acknowledged exactly if the database keeps its record; else the database keeps nothing. -/
theorem respond_report [RandomSource σ] (s : Server σ) (hread : FindsPath s.addressPath)
    {p : Peers} (hp : p.Usual) {r : Request} (hmethod : r.method = "POST")
    (hpath : Route.report.hasPath r.target.path = true) :
    let events := (s.respond p r).1
    let status := (s.respond p r).2.1.status
    status = firstStatus 201 (s.grounds p r) ∧
    (status = 201 ↔ ∃ record, record? p r = some record ∧
      Store.kept p.database [] events = [Store.insertStatement p.now record]) ∧
    (status ≠ 201 → Store.kept p.database [] events = []) := by
  intro events status
  obtain ⟨hstatus, hacknowledges⟩ := s.status_respond hread hp hmethod hpath
  refine ⟨hstatus, ⟨hacknowledges.kept, ?kept⟩, hacknowledges.otherwise⟩
  case kept =>
    rintro ⟨record, -, hkept⟩
    apply Decidable.byContradiction
    intro hother
    have hnone : Store.kept p.database [] events = [] := hacknowledges.otherwise hother
    rw [hkept] at hnone
    cases hnone

end Respond

section Steady

def post (host : String) : Request where
  method := "POST"
  target := ⟨"http".toList, "testserver".toList, "/telemetry".toList, []⟩
  headers := [("host", host), ("content-type", "application/json")]
  body := ("\x7b\"service\":\"s\",\"ip_address\":\"1.2.3.4\"," ++
    "\"magistrala_version\":\"1\"\x7d").toList.map fun c => c.toNat.toUInt8
  client := "testclient"

def steadyPeers : Peers where
  now := ⟨0, none, Time.Moment.inRange_zero, Time.Moment.offset_lt_none⟩
  clock := 0.0
  database := {}
  locations := fun _ => .entry ⟨.string "Kenya", .string "Nairobi", .null, .null⟩
  reachable := fun _ => true

theorem usual_steadyPeers : steadyPeers.Usual where
  database := ⟨nofun, nofun, nofun, nofun⟩
  place := by
    intro ip f h
    unfold Location.find at h
    split at h
    · cases h
      rfl
    · cases h

def closedServer (cache : Cache Answer Congruential) : Server Congruential where
  settings := { rateLimitGlobalPerSecond := 0 }
  templates := []
  cache := cache

def openServer (cache : Cache Answer Congruential) : Server Congruential :=
  { closedServer cache with settings := {} }

/-- The same report is kept by one server and turned away by the other, also under a host that is
none. -/
theorem respond_post : ∃ cache, Cache.make ⟨1, 1, 1⟩ ⟨1, []⟩ = .ok cache ∧
    ((openServer cache).respond steadyPeers (post "testserver")).2.1.status = 201 ∧
    ((closedServer cache).respond steadyPeers (post "testserver")).2.1.status = 429 ∧
    ((closedServer cache).respond steadyPeers (post "x?")).2.1.status = 429 := by
  refine ⟨_, rfl, ?_, ?_, ?_⟩
  · refine ((openServer _).respond_report findsPath_addressPath usual_steadyPeers rfl
      rfl).1.trans ?_
    decide +kernel
  · refine ((closedServer _).respond_report findsPath_addressPath usual_steadyPeers rfl
      rfl).1.trans ?_
    decide +kernel
  · refine ((closedServer _).respond_report findsPath_addressPath usual_steadyPeers rfl
      rfl).1.trans ?_
    decide +kernel

end Steady

end Server

end Census.Web
