import Census.Proofs.Dashboard.Outside
import Census.Proofs.Web.Reading

/-! What clients learn of the records. Two servers that meet the same requests, over databases whose
records differ at most in what stays inside, send the same responses. -/
namespace Census.Web

variable {σ : Type}

structure Peers.SameOutside (p p' : Peers) : Prop where
  rest : { p with database := p'.database } = p'
  database : p.database.SameOutside p'.database

structure Server.SameOutside (s s' : Server σ) : Prop where
  rest : { s with cache := s'.cache } = s'
  cache : s.cache.SameOutside s'.cache

abbrev Visit := Peers × Request

def Visit.SameOutside (v v' : Visit) : Prop :=
  v.1.SameOutside v'.1 ∧ v.2 = v'.2

namespace Server

section Operations

variable {p p' : Peers}

theorem alike_page (settings : Settings) (hp : p.SameOutside p') (r : Request) :
    Store.Traced.Alike Eq (page settings p r) (page settings p' r) := by
  have hnow : p'.now = p.now := by rw [← hp.rest]
  unfold page
  rw [hnow]
  refine .bind (.refl _) fun asked _ hasked => ?_
  subst hasked
  cases asked with
  | none => exact .refl _
  | some asked =>
    refine .bind (Store.alike_retrievePage hp.database asked.1 asked.2) fun page page' hpage => ?_
    refine .pure ?_
    rw [← page.toJson_outside, hpage, page'.toJson_outside]

theorem alike_summary (settings : Settings) (hp : p.SameOutside p') (r : Request) :
    Store.Traced.Alike Eq (summary settings p r) (summary settings p' r) := by
  have hnow : p'.now = p.now := by rw [← hp.rest]
  unfold summary
  rw [hnow]
  refine .bind (.refl _) fun asked _ hasked => ?_
  subst hasked
  cases asked with
  | none => exact .refl _
  | some f =>
    refine .bind (Store.alike_retrieveSummary hp.database f) fun summary _ hsummary => ?_
    subst hsummary
    exact .refl _

/-- What is saved does not depend on the rows of pages. -/
theorem report_congr (hp : p.SameOutside p') (r : Request) : report p r = report p' r := by
  have hlocations : p'.locations = p.locations := by rw [← hp.rest]
  have hnow : p'.now = p.now := by rw [← hp.rest]
  have hsave : Intake.save p.locations p'.database p.now =
      Intake.save p.locations p.database p.now := by
    rw [← hp.database.rest]
    rfl
  unfold report
  rw [hlocations, hnow, hsave]

theorem alike_health :
    Serving.Alike Eq (Serving.use fun c : Cache Answer σ => (Response.json 200 (healthJson c), c))
      (Serving.use fun c => (.json 200 (healthJson c), c)) := by
  intro c c' hc
  have hjson : healthJson c = healthJson c' := by
    unfold healthJson metricsJson
    rw [hc.metrics_eq, hc.usedCost_eq]
  exact ⟨.pure (congrArg (Response.json 200) hjson), hc⟩

variable [RandomSource σ]

theorem alike_dashboard (s : Server σ) (hp : p.SameOutside p') (r : Request) :
    Serving.Alike Eq (dashboard s p r) (dashboard s p' r) := by
  have hnow : p'.now = p.now := by rw [← hp.rest]
  have hclock : p'.clock = p.clock := by rw [← hp.rest]
  unfold dashboard
  rw [hnow, hclock]
  refine .bind (.ofExcept _) fun asked _ hasked => ?_
  subst hasked
  cases asked with
  | none => exact .pure rfl
  | some f =>
    refine .bind (Dashboard.alike_serve s.settings s.templates hp.database p.clock f)
      fun markup _ hmarkup => ?_
    subst hmarkup
    exact .pure rfl

theorem alike_dispatch (s : Server σ) (hp : p.SameOutside p') (r : Request) (d : Destination) :
    Serving.Alike Eq (s.dispatch p r d) (s.dispatch p' r d) := by
  cases d with
  | operation route =>
    cases route with
    | report =>
      have hsame : report p r = report p' r := report_congr hp r
      unfold dispatch operate
      dsimp only
      rw [hsame]
      exact .lift (.refl _)
    | page => exact .lift (alike_page s.settings hp r)
    | summary => exact .lift (alike_summary s.settings hp r)
    | dashboard => exact alike_dashboard s hp r
    | health => exact alike_health
    | metrics => exact .pure rfl
  | otherMethod route => exact .pure rfl
  | file path => exact .pure rfl
  | elsewhere path => exact .pure rfl
  | nowhere => exact .pure rfl

end Operations

theorem admission_congr {s s' : Server σ} {p p' : Peers} (hs : s.SameOutside s')
    (hp : p.SameOutside p') (r : Request) : s'.admission p' r = s.admission p r := by
  rw [← hs.rest, ← hp.rest]
  rfl

theorem alike_send {s s' : Server σ} (hs : s.SameOutside s') (r : Request) (label : String)
    (response : Response) : (s.send r label response).1 = (s'.send r label response).1 ∧
      (s.send r label response).2.SameOutside (s'.send r label response).2 := by
  obtain ⟨hrest, hcache⟩ := hs
  refine ⟨rfl, ?_, hcache⟩
  rw [← hrest]
  rfl

section Runs

variable [RandomSource σ] {s s' : Server σ} {p p' : Peers}

theorem dispatch_cache (s : Server σ) (c : Cache Answer σ) (p : Peers) (r : Request)
    (d : Destination) : { s with cache := c }.dispatch p r d = s.dispatch p r d := by
  cases d with
  | operation route => cases route <;> rfl
  | _ => rfl

theorem alike_respond (hs : s.SameOutside s') (hp : p.SameOutside p') (r : Request) :
    (s.respond p r).1 = (s'.respond p' r).1 ∧ (s.respond p r).2.1 = (s'.respond p' r).2.1 ∧
      (s.respond p r).2.2.SameOutside (s'.respond p' r).2.2 := by
  have hadmission := admission_congr hs hp r
  obtain ⟨hrest, hcache⟩ := hs
  unfold respond
  rw [hadmission, ← hrest]
  have hgate : ∀ gate, SameOutside { s with gate := gate }
      { s with cache := s'.cache, gate := gate } := fun gate => ⟨rfl, hcache⟩
  rcases s.admission p r with ⟨refused, gate⟩
  cases refused with
  | true => exact ⟨rfl, alike_send (hgate gate) r _ _⟩
  | false =>
    dsimp only
    let d := Destination.find r.method r.target.path
    have hdispatch := dispatch_cache { s with gate := gate } s'.cache p' r d
    obtain ⟨ht, hafter⟩ := alike_dispatch { s with gate := gate } hp r d s.cache s'.cache hcache
    have hsame : SameOutside
        { s with gate := gate, cache := (dispatch { s with gate := gate } p r d s.cache).2 }
        { s with gate := gate, cache := (dispatch { s with gate := gate } p' r d s'.cache).2 } :=
      ⟨rfl, hafter⟩
    rw [hdispatch, ht.eq]
    exact ⟨rfl, alike_send hsame r _ _⟩

/-- What a run of visits does to the database, and what the clients are sent. -/
def responses (s : Server σ) : List Visit → List (List Store.Event × Response)
  | [] => []
  | (p, r) :: visits =>
    let (events, response, s) := s.respond p r
    (events, response) :: s.responses visits

theorem responses_eq (hs : s.SameOutside s') {visits visits' : List Visit}
    (hvisits : List.Forall₂ Visit.SameOutside visits visits') :
    s.responses visits = s'.responses visits' := by
  induction hvisits generalizing s s' with
  | nil => rfl
  | @cons v v' _ _ hv _ ih =>
    obtain ⟨p, r⟩ := v
    obtain ⟨p', r'⟩ := v'
    obtain ⟨hp, rfl⟩ := hv
    obtain ⟨hevents, hresponse, hafter⟩ := alike_respond hs hp r
    unfold responses
    dsimp only
    rw [hevents, hresponse, ih hafter]

def overlap (s : Server σ) (events : List Dashboard.Event) : Dashboard.Session σ :=
  Dashboard.Session.run s.settings s.templates ⟨s.cache, []⟩ events

/-- Addresses, hardware addresses and ids of deployments never get out: servers whose records and
kept answers differ in nothing else send the same responses, whatever they are asked and in whatever
order, and calls of their dashboards that overlap end in the same markup. -/
theorem responses_sameOutside (hs : s.SameOutside s') {visits visits' : List Visit}
    (hvisits : List.Forall₂ Visit.SameOutside visits visits') {events events' : List Dashboard.Event}
    (hevents : events.map Dashboard.Event.outside = events'.map Dashboard.Event.outside) :
    s.responses visits = s'.responses visits' ∧
      (s.overlap events).cache.SameOutside (s'.overlap events').cache ∧
      (s.overlap events).calls.map Dashboard.Session.outcome? =
        (s'.overlap events').calls.map Dashboard.Session.outcome? := by
  refine ⟨responses_eq hs hvisits, ?_⟩
  have hsessions : (⟨s.cache, []⟩ : Dashboard.Session σ).outside =
      (⟨s'.cache, []⟩ : Dashboard.Session σ).outside :=
    congrArg (Dashboard.Session.mk · []) hs.cache
  have hsettings : s'.settings = s.settings := by rw [← hs.rest]
  have htemplates : s'.templates = s.templates := by rw [← hs.rest]
  unfold overlap
  rw [hsettings, htemplates]
  exact Dashboard.Session.outcomes_eq hsessions hevents

end Runs

section Instances

def deployment (ip id : String) : Row :=
  [("ip_address", .plain (.string ip)), ("mac_address", .plain .null),
    ("deployment_id", .plain (.string id)), ("time", .moment Dashboard.epoch),
    ("service_time", .plain .null), ("longitude", .plain (.float 36.82)),
    ("latitude", .plain (.float (-1.28))), ("mg_version", .plain (.string "0.1")),
    ("service", .plain (.string "mfx")), ("country", .plain (.string "Kenya")),
    ("city", .plain (.string "Nairobi")), ("services", .plain .null)]

def nairobi (ip id : String) : Record where
  service := "mfx"
  services := []
  ipAddress := ip
  macAddress := ""
  deploymentId := id
  version := "0.1"
  country := "Kenya"
  city := "Nairobi"
  latitude := -1.28
  longitude := 36.82
  lastSeen := some Dashboard.epoch
  serviceTime := none

def housing (ip id : String) : Peers :=
  { epochPeers with database := { pageRows := [deployment ip id] } }

def mapServer (cache : Cache Answer Congruential) : Server Congruential :=
  { plainServer {} cache with templates := [("index.html", .ok [.script .map])] }

def tour (ip id : String) : List Visit :=
  [(housing ip id, get "/" ""), (housing ip id, get "/telemetry" "")]

theorem ofRow_deployment :
    [deployment "1.2.3.4" "a"].mapM Record.ofRow = .ok [nairobi "1.2.3.4" "a"] ∧
      [deployment "5.6.7.8" ""].mapM Record.ofRow = .ok [nairobi "5.6.7.8" ""] :=
  ⟨rfl, rfl⟩

theorem sameOutside_housing : (housing "1.2.3.4" "a").SameOutside (housing "5.6.7.8" "") where
  rest := rfl
  database := by
    have hrecords : SameEnd (List.Forall₂ Record.SameOutside) (.ok [nairobi "1.2.3.4" "a"])
        (.ok [nairobi "5.6.7.8" ""]) := .done (.cons rfl .nil)
    refine ⟨rfl, ?_⟩
    rw [← ofRow_deployment.1, ← ofRow_deployment.2] at hrecords
    exact hrecords

theorem responses_moved : ∃ cache, Cache.make ⟨1, 1, 1⟩ ⟨1, []⟩ = .ok cache ∧
    ((mapServer cache).responses (tour "1.2.3.4" "a")).map (·.2.status) = [200, 200] ∧
    (mapServer cache).responses (tour "1.2.3.4" "a") =
      (mapServer cache).responses (tour "5.6.7.8" "") := by
  refine ⟨_, rfl, ?_, ?_⟩
  · decide +kernel
  · have hvisits : List.Forall₂ Visit.SameOutside (tour "1.2.3.4" "a") (tour "5.6.7.8" "") :=
      .cons ⟨sameOutside_housing, rfl⟩ (.cons ⟨sameOutside_housing, rfl⟩ .nil)
    exact (responses_sameOutside ⟨rfl, rfl⟩ hvisits (rfl : [].map _ = [].map _)).1

end Instances

end Server

end Census.Web
