import Census.Proofs.Web.Privacy
import Mathlib.Algebra.BigOperators.Group.Finset.Basic

/-! What the tally of a server says of the requests that it has answered. Requests that pass the
gate are counted under the route that takes them; those that the gate turns away never come to the
routes, and are counted like requests that no route takes. -/
namespace Census.Web

def Route.takes (route : Route) (r : Request) : Bool :=
  r.method == route.method && route.hasPath r.target.path

def Route.mark (route : Route) (status : Nat) : Mark :=
  ⟨route.method, route.label, status⟩

section Routes

theorem Route.mem_all (route : Route) : route ∈ Route.all := by
  cases route <;> decide

theorem Route.eq_of_label {route other : Route} (hmethod : route.method = other.method)
    (hlabel : route.label = other.label) : route = other := by
  have hall : ∀ route ∈ Route.all, ∀ other ∈ Route.all, route.method = other.method →
      route.label = other.label → route = other := by decide
  exact hall route route.mem_all other other.mem_all hmethod hlabel

theorem Route.path_of_label {route other : Route} (hlabel : route.label = other.label) :
    route.path = other.path := by
  have hall : ∀ route ∈ Route.all, ∀ other ∈ Route.all, route.label = other.label →
      route.path = other.path := by decide
  exact hall route route.mem_all other other.mem_all hlabel

theorem Route.label_ne_unmatched (route : Route) : Destination.nowhere.label ≠ route.label := by
  cases route <;> decide

theorem Route.eq_of_hasPath {route other : Route} {path : List Char}
    (hmethod : route.method = other.method) (hpath : route.hasPath path = true)
    (hother : other.hasPath path = true) : route = other := by
  have hall : ∀ route ∈ Route.all, ∀ other ∈ Route.all, route.method = other.method →
      (∃ path ∈ [route.path.toList, route.path.toList ++ ['\n']],
        path = other.path.toList ∨ path = other.path.toList ++ ['\n']) → route = other := by
    decide
  simp only [Route.hasPath, Bool.or_eq_true, beq_iff_eq] at hpath hother
  exact hall route route.mem_all other other.mem_all hmethod ⟨path, by simpa using hpath, hother⟩

theorem label_find_eq_iff (route : Route) (r : Request) :
    (r.method = route.method ∧ (Destination.find r.method r.target.path).label = route.label) ↔
      route.takes r = true := by
  unfold Route.takes
  rw [Bool.and_eq_true, beq_iff_eq]
  refine and_congr_right fun hmethod => ?_
  unfold Destination.find
  split
  · rename_i found hfound
    have htaken := List.find?_some hfound
    rw [Bool.and_eq_true, beq_iff_eq] at htaken
    have hsame : found.method = route.method := htaken.2.trans hmethod
    constructor
    · intro hlabel
      rw [← Route.eq_of_label hsame hlabel]
      exact htaken.1
    · intro hpath
      rw [Route.eq_of_hasPath hsame htaken.1 hpath]
      rfl
  · rename_i hnone
    have hpath : route.hasPath r.target.path = false := by
      have hnot := List.find?_eq_none.mp hnone route route.mem_all
      simpa [hmethod] using hnot
    rw [hpath]
    simp only [Bool.false_eq_true, iff_false]
    split
    · exact route.label_ne_unmatched
    split
    · rename_i other hother
      intro hlabel
      have htaken := List.find?_some hother
      rw [Route.hasPath, Route.path_of_label hlabel] at htaken
      exact Bool.false_ne_true (hpath.symm.trans htaken)
    split
    · exact route.label_ne_unmatched
    · exact route.label_ne_unmatched

theorem Route.filePath?_eq_none {route : Route} {path : List Char}
    (hpath : route.hasPath path = true) : filePath? path = none := by
  have hall : ∀ route ∈ Route.all, filePath? route.path.toList = none ∧
      filePath? (route.path.toList ++ ['\n']) = none := by decide
  simp only [Route.hasPath, Bool.or_eq_true, beq_iff_eq] at hpath
  rcases hpath with rfl | rfl
  · exact (hall route route.mem_all).1
  · exact (hall route route.mem_all).2

theorem label_find_eq_unmatched_iff (method : String) (path : List Char) :
    (Destination.find method path).label = Destination.nowhere.label ↔
      Route.all.any (·.hasPath path) = false := by
  have hsome : ∀ route : Route, route.hasPath path = true →
      (route.label = Destination.nowhere.label ↔ Route.all.any (·.hasPath path) = false) := by
    intro route hpath
    have hany : Route.all.any (·.hasPath path) = true :=
      List.any_eq_true.mpr ⟨route, route.mem_all, hpath⟩
    rw [hany]
    exact iff_of_false route.label_ne_unmatched.symm (by decide)
  unfold Destination.find
  split
  · rename_i found hfound
    have htaken := List.find?_some hfound
    rw [Bool.and_eq_true] at htaken
    exact hsome found htaken.1
  · split
    · rename_i file hfile
      refine iff_of_true rfl ?_
      rw [List.any_eq_false]
      intro route _ hpath
      rw [Route.filePath?_eq_none hpath] at hfile
      cases hfile
    split
    · rename_i other hother
      have hpath := List.find?_some hother
      exact hsome other hpath
    · rename_i hnone
      have hnowhere : Route.all.any (·.hasPath path) = false := by
        simpa [List.any_eq_false] using hnone
      split <;> exact iff_of_true rfl hnowhere

end Routes

/-- A request with what became of it: whether the gate let it pass, and the status of its response.
-/
structure Exchange where
  request : Request
  admitted : Bool
  status : Nat

namespace Exchange

def mark (e : Exchange) : Mark where
  method := e.request.method
  route :=
    if e.admitted then (Destination.find e.request.method e.request.target.path).label
    else Destination.nowhere.label
  status := e.status

def answers (e : Exchange) (route : Route) (status : Nat) : Bool :=
  route.takes e.request && e.status == status

theorem mark_eq_iff (e : Exchange) (route : Route) (status : Nat) :
    e.mark = route.mark status ↔ e.admitted = true ∧ e.answers route status = true := by
  have hmark : e.mark = route.mark status ↔
      e.mark.method = route.method ∧ e.mark.route = route.label ∧ e.mark.status = status := by
    unfold Route.mark
    rw [Mark.mk.injEq]
  rw [hmark]
  unfold mark answers
  cases hadmitted : e.admitted with
  | false => simp [route.label_ne_unmatched]
  | true =>
    simp only [if_true, Bool.and_eq_true, beq_iff_eq, true_and]
    rw [← label_find_eq_iff, and_assoc]

theorem mark_eq_unmatched_iff (e : Exchange) (method : String) (status : Nat) :
    e.mark = ⟨method, "unmatched", status⟩ ↔ (e.request.method = method ∧ e.status = status) ∧
      (e.admitted = false ∨ Route.all.any (·.hasPath e.request.target.path) = false) := by
  have hlabel := label_find_eq_unmatched_iff e.request.method e.request.target.path
  unfold mark
  rw [Mark.mk.injEq]
  cases hadmitted : e.admitted with
  | false => simp [Destination.label]
  | true =>
    simp only [if_true, Bool.true_eq_false, false_or, ← hlabel, and_assoc]
    exact and_congr_right fun _ => and_comm

end Exchange

namespace Server

variable {σ : Type}

def admits (s : Server σ) (p : Peers) (r : Request) : Bool :=
  !(s.admission p r).1

variable [RandomSource σ]

def after (s : Server σ) (visits : List Visit) : Server σ :=
  visits.foldl (fun s v => (s.respond v.1 v.2).2.2) s

def exchanges (s : Server σ) : List Visit → List Exchange
  | [] => []
  | (p, r) :: visits =>
    let (_, response, next) := s.respond p r
    ⟨r, s.admits p r, response.status⟩ :: next.exchanges visits

section Exchanges

variable {s : Server σ} {p : Peers} {r : Request}

theorem tally_respond (s : Server σ) (p : Peers) (r : Request) : (s.respond p r).2.2.tally =
    s.tally ++ [(Exchange.mk r (s.admits p r) (s.respond p r).2.1.status).mark] := by
  unfold respond admits Exchange.mark
  rcases s.admission p r with ⟨_ | _, gate⟩ <;>
    simp [send, apply_ite Response.status, Response.bare]

theorem tally_after (s : Server σ) (visits : List Visit) :
    (s.after visits).tally = s.tally ++ (s.exchanges visits).map Exchange.mark := by
  induction visits generalizing s with
  | nil => simp [after, exchanges]
  | cons v visits ih =>
    have hrest := ih (s.respond v.1 v.2).2.2
    rw [tally_respond, List.append_assoc] at hrest
    exact hrest

theorem length_exchanges (s : Server σ) (visits : List Visit) :
    (s.exchanges visits).length = visits.length := by
  induction visits generalizing s with
  | nil => rfl
  | cons v visits ih => exact congrArg (· + 1) (ih (s.respond v.1 v.2).2.2)

theorem forall_exchanges {P : Exchange → Prop}
    (hP : ∀ (s : Server σ) p r, P ⟨r, s.admits p r, (s.respond p r).2.1.status⟩) (s : Server σ)
    (visits : List Visit) : ∀ e ∈ s.exchanges visits, P e := by
  induction visits generalizing s with
  | nil => simp [exchanges]
  | cons v visits ih =>
    intro e he
    rcases List.mem_cons.mp he with rfl | he
    · exact hP s v.1 v.2
    · exact ih (s.respond v.1 v.2).2.2 e he

theorem status_of_not_admits (h : s.admits p r = false) :
    r.method = "POST" ∧ (s.respond p r).2.1.status = 429 := by
  have hrefused : (s.admission p r).1 = true := by simpa [admits] using h
  refine ⟨?_, (s.respond_of_refused p hrefused).2⟩
  apply Decidable.byContradiction
  intro hother
  unfold admission at hrefused
  rw [Gate.guards_of_not_post s.settings hother] at hrefused
  cases hrefused

theorem status_ofFailure_ne_limited (f : Failure) : (Response.ofFailure f).status ≠ 429 := by
  have hkinds : ∀ status, Response.statusOf f = some status → status ≠ 429 := by
    intro status h
    unfold Response.statusOf at h
    split at h
    · cases h
      decide
    split at h
    · split at h <;> cases h <;> decide
    split at h
    · cases h
      decide
    · cases h
  unfold Response.ofFailure
  split
  · exact hkinds _ ‹_›
  · split <;> decide

theorem status_report_ne_limited (p : Peers) (r : Request) :
    (settle (report p r).result).status ≠ 429 := by
  unfold report
  split
  · rename_i refusal _
    cases refusal with
    | mediaType => decide
    | malformed faults => exact show 400 ≠ 429 by decide
  · rename_i submission _
    cases hsave : (Intake.save p.locations p.database p.now submission.toRecord).result with
    | error f =>
      rw [Store.Traced.bind_of_error hsave]
      exact status_ofFailure_ne_limited f
    | ok record =>
      rw [Store.Traced.bind_of_ok hsave]
      exact show 201 ≠ 429 by decide

theorem status_of_admits (h : s.admits p r = true) (hreport : Route.report.takes r = true) :
    (s.respond p r).2.1.status ≠ 429 := by
  unfold Route.takes at hreport
  rw [Bool.and_eq_true, beq_iff_eq] at hreport
  have hadmitted : (s.admission p r).1 = false := by simpa [admits] using h
  rw [(s.respond_of_admitted hadmitted (find_report hreport.1 hreport.2)).2]
  exact status_report_ne_limited p r

end Exchanges

section Counts

theorem count_tally {s : Server σ} (hnew : s.tally = []) (visits : List Visit) (m : Mark) :
    (s.after visits).tally.count m = (s.exchanges visits).countP fun e => e.mark == m := by
  rw [tally_after, hnew, List.nil_append, List.count, List.countP_map]
  rfl

theorem count_route {s : Server σ} (hnew : s.tally = []) (visits : List Visit) (route : Route)
    (status : Nat) : (s.after visits).tally.count (route.mark status) =
      (s.exchanges visits).countP fun e => e.admitted && e.answers route status := by
  rw [count_tally hnew]
  refine List.countP_congr fun e _ => ?_
  rw [beq_iff_eq, Bool.and_eq_true, e.mark_eq_iff]

theorem count_unmatched {s : Server σ} (hnew : s.tally = []) (visits : List Visit)
    (method : String) (status : Nat) : (s.after visits).tally.count ⟨method, "unmatched", status⟩ =
      (s.exchanges visits).countP fun e => e.request.method == method && e.status == status &&
        (!e.admitted || !Route.all.any (·.hasPath e.request.target.path)) := by
  rw [count_tally hnew]
  refine List.countP_congr fun e _ => ?_
  rw [beq_iff_eq, e.mark_eq_unmatched_iff]
  simp only [Bool.and_eq_true, beq_iff_eq, Bool.or_eq_true, Bool.not_eq_true']

theorem sum_count_tally {s : Server σ} (hnew : s.tally = []) (visits : List Visit) :
    ∑ m ∈ (s.after visits).tally.toFinset, (s.after visits).tally.count m = visits.length := by
  have hlength : (s.after visits).tally.length = visits.length := by
    rw [tally_after, hnew, List.nil_append, List.length_map, length_exchanges]
  exact (List.sum_toFinset_count_eq_length _).trans hlength

theorem admitted_of_answers {e : Exchange}
    (haway : e.admitted = false → e.request.method = "POST" ∧ e.status = 429) {route : Route}
    {status : Nat} (hanswers : e.answers route status = true)
    (hother : route ≠ .report ∨ status ≠ 429) : e.admitted = true := by
  apply Bool.of_not_eq_false
  intro hkept
  obtain ⟨hmethod, hstatus⟩ := haway hkept
  unfold Exchange.answers Route.takes at hanswers
  simp only [Bool.and_eq_true, beq_iff_eq] at hanswers
  obtain ⟨⟨hsame, -⟩, rfl⟩ := hanswers
  rw [hmethod] at hsame
  rcases hother with hroute | hlimit
  · cases route <;> first | exact hroute rfl | exact absurd hsame (by decide)
  · exact hlimit hstatus

/-- The counter of a route and a status tells how many requests for the route had that status, less
those that the gate turned away: they are counted with the requests that no route takes. Only
posted requests are turned away, for the limits, so that no report is counted as over the limit, and
every other counter of a route is exact. All counters together tell how many requests there were. -/
theorem counters_after {s : Server σ} (hnew : s.tally = []) (visits : List Visit) :
    let count (m : Mark) := (s.after visits).tally.count m
    let exchanges := s.exchanges visits
    (∀ route status, count (route.mark status) +
        exchanges.countP (fun e => !e.admitted && e.answers route status) =
      exchanges.countP fun e => e.answers route status) ∧
    (∀ e ∈ exchanges, e.admitted = false → e.request.method = "POST" ∧ e.status = 429) ∧
    (∀ route status, route ≠ .report ∨ status ≠ 429 →
      count (route.mark status) = exchanges.countP fun e => e.answers route status) ∧
    count (Route.report.mark 429) = 0 ∧
    (∀ method status, count ⟨method, "unmatched", status⟩ =
      exchanges.countP fun e => e.request.method == method && e.status == status &&
        (!e.admitted || !Route.all.any (·.hasPath e.request.target.path))) ∧
    ∑ m ∈ (s.after visits).tally.toFinset, count m = visits.length := by
  intro count exchanges
  have haway : ∀ e ∈ exchanges, e.admitted = false → e.request.method = "POST" ∧ e.status = 429 :=
    forall_exchanges (fun _ _ _ => status_of_not_admits) s visits
  refine ⟨?less, haway, ?exact, ?limited, count_unmatched hnew visits,
    sum_count_tally hnew visits⟩
  case less =>
    intro route status
    have hsplit := List.countP_eq_countP_filter_add exchanges
      (fun e => e.answers route status) (·.admitted)
    simp only [List.countP_filter, Bool.and_comm (Exchange.answers _ _ _)] at hsplit
    rw [hsplit]
    simpa using count_route hnew visits route status
  case exact =>
    intro route status hother
    refine (count_route hnew visits route status).trans (List.countP_congr fun e he => ?_)
    rw [Bool.and_eq_true, and_iff_right_iff_imp]
    intro hanswers
    exact admitted_of_answers (haway e he) hanswers hother
  case limited =>
    refine (count_route hnew visits .report 429).trans (List.countP_eq_zero.mpr ?_)
    refine forall_exchanges (fun s p r => ?_) s visits
    rw [Bool.and_eq_true]
    rintro ⟨hadmits, hanswers⟩
    unfold Exchange.answers at hanswers
    rw [Bool.and_eq_true, beq_iff_eq] at hanswers
    exact status_of_admits hadmits hanswers.1 hanswers.2

def refusedReport : List Visit :=
  [(steadyPeers, post "testserver"), (steadyPeers, get "/health" "")]

theorem counters_refusedReport : ∃ cache, Cache.make ⟨1, 1, 1⟩ ⟨1, []⟩ = .ok cache ∧
    ((closedServer cache).exchanges refusedReport).countP (·.answers .report 429) = 1 ∧
    ((closedServer cache).after refusedReport).tally.count (Route.report.mark 429) = 0 ∧
    ((closedServer cache).after refusedReport).tally.count (Route.health.mark 200) = 1 := by
  refine ⟨_, rfl, ?_, ?_, ?_⟩
  · decide +kernel
  · exact ((closedServer _).counters_after rfl refusedReport).2.2.2.1
  · refine Eq.trans
      (((closedServer _).counters_after rfl refusedReport).2.2.1 .health 200 (.inl ?_)) ?_
    · decide
    · decide +kernel

end Counts

end Server

end Census.Web
