import Census.Proofs.Dashboard.Failing
import Census.Proofs.Store.Reading
import Census.Proofs.Web.Report

/-! Requests that read. A query is refused before the database is asked, and it is where a value
cannot be read, the part lies outside the limits or the window ends before it begins. What the
database is asked is bounded. -/
namespace Census

open Store (Reads Sends Silent Bounded Statement)

namespace Serving

variable {σ α β : Type}

theorem fst_bind (s : Serving σ α) (f : α → Serving σ β) (c : Cache Answer σ) :
    ((s >>= f) c).1 = (s c).1 >>= fun a => (f a (s c).2).1 := by
  cases hs : (s c).1.result with
  | error e => rw [bind_of_error hs, Store.Traced.bind_of_error hs]
  | ok a => rw [bind_of_ok hs, Store.Traced.bind_of_ok hs]

def Reads (sent : QueryKind → Statement → Prop) (s : Serving σ α) : Prop :=
  ∀ c, Store.Reads sent (s c).1

variable {sent : QueryKind → Statement → Prop}

theorem Reads.ofExcept {r : Except Failure α} (h : ∀ f, r = .error f → f.blames = false) :
    Reads sent (Serving.ofExcept r : Serving σ α) := fun _ =>
  .ofExcept h

theorem Reads.pure (a : α) : Reads sent (Pure.pure a : Serving σ α) := fun _ =>
  .pure a

theorem Reads.use (step : Cache Answer σ → α × Cache Answer σ) : Reads sent (use step) := fun c =>
  .pure (step c).1

theorem Reads.bind {s : Serving σ α} {f : α → Serving σ β} (hs : Reads sent s)
    (hf : ∀ a, Reads sent (f a)) : Reads sent (s >>= f) := fun c => by
  rw [fst_bind]
  exact (hs c).bind fun a _ => hf a (s c).2

end Serving

section Dashboards

variable {σ : Type} [RandomSource σ] {sent : QueryKind → Statement → Prop} {settings : Settings}
  {db : Store.Database} {clock : Float}

theorem reads_resolve {q : Inquiry} (h : Reads sent (q.ask settings db)) :
    Serving.Reads sent (Inquiry.resolve settings db clock q : Serving σ q.kind.Result) := by
  refine .bind (.ofExcept fun f hf => ?_) fun key => .bind (.use _) fun found => ?_
  · rw [(Filters.eq_dateRange_of_key hf).1]
    rfl
  · cases found with
    | some r => exact .pure r
    | none => exact .bind (fun _ => h) fun r => .bind (.use _) fun _ => .pure r

theorem reads_serve {templates : Dashboard.Templates} {f : Filters}
    (htemplate : ∀ e, templates.load settings.uiTemplate = .error e → e.isA .own = false)
    (hask : ∀ q ∈ Dashboard.Call.inquiries f, Reads sent (q.ask settings db)) :
    Serving.Reads sent (Dashboard.serve settings templates db clock f : Serving σ (List Char)) := by
  have hload : ∀ e, (templates.load settings.uiTemplate).mapError
      (Dashboard.templateFailure .template) = .error e → e.blames = false := by
    intro e he
    obtain ⟨cause, hload, rfl⟩ := mapError_eq_error he
    unfold Dashboard.templateFailure
    split
    · rfl
    · exact Failure.blames_of_foreign (htemplate cause hload)
  have hview : ∀ summary unfiltered page e,
      Dashboard.View.make f summary unfiltered page = .error e → e.blames = false := by
    intro summary unfiltered page e he
    rcases Dashboard.eq_of_make he with ⟨left, right, rfl⟩ | ⟨rfl, -⟩
    · rfl
    · rfl
  have hrender : ∀ (template : Dashboard.Template) view e, (template.render view).mapError
      (Dashboard.templateFailure .rendering) = .error e → e.blames = false := by
    intro template view e he
    obtain ⟨cause, hrender, rfl⟩ := mapError_eq_error he
    unfold Dashboard.templateFailure
    rw [if_pos (Dashboard.isA_template_of_render hrender)]
    rfl
  refine .bind (.ofExcept hload) fun template => ?_
  refine .bind (reads_resolve (hask _ (by simp [Dashboard.Call.inquiries]))) fun summary => ?_
  refine .bind (reads_resolve (hask _ (by simp [Dashboard.Call.inquiries]))) fun unfiltered => ?_
  refine .bind (reads_resolve (hask _ (by simp [Dashboard.Call.inquiries]))) fun page => ?_
  exact .bind (.ofExcept (hview _ _ _)) fun view => .ofExcept (hrender template view)

end Dashboards

theorem blames_of_toJson {s : Summary} {e : Failure} (h : s.toJson = .error e) :
    e.blames = false := by
  have hlabels : ∀ {labels : List Label}, Summary.labelsJson labels = .error e →
      e.blames = false := by
    intro labels h
    obtain ⟨left, right, rfl⟩ := Dashboard.eq_mixedOrder_of_labelsJson h
    rfl
  rcases bind_eq_error.mp h with h | ⟨_, -, h⟩
  · exact hlabels h
  rcases bind_eq_error.mp h with h | ⟨_, -, h⟩
  · exact hlabels h
  rcases bind_eq_error.mp h with h | ⟨_, -, h⟩
  · exact hlabels h
  · cases h

namespace Web

open Time

section Queries

inductive Found (settings : Settings) (now : Moment) (q : QueryFields) :
    Except Failure (Option Filters) → Prop
  | unread (h : q.selection? = none) : Found settings now q (.ok none)
  | uncomputed {selection : Selection} {e : Failure} (hselection : q.selection? = some selection)
      (hwindow : Filters.window .double settings now selection = .error e) :
      Found settings now q (.error e)
  | backwards {selection : Selection} {start stop : Moment}
      (hselection : q.selection? = some selection)
      (hwindow : Filters.window .double settings now selection = .ok (start, stop))
      (horder : stop.instant < start.instant) : Found settings now q (.error .queryRange)
  | windowed {selection : Selection} {start stop : Moment} {f : Filters}
      (hselection : q.selection? = some selection)
      (hwindow : Filters.window .double settings now selection = .ok (start, stop))
      (horder : start.instant ≤ stop.instant) (hf : f.Windowed) :
      Found settings now q (.ok (some f))

variable {settings : Settings} {now : Moment} {q : QueryFields}

theorem found_filters (settings : Settings) (now : Moment) (q : QueryFields) :
    Found settings now q (q.filters settings now) := by
  unfold QueryFields.filters
  cases hselection : q.selection? with
  | none => exact .unread hselection
  | some selection =>
    dsimp only
    rcases Filters.ofSelection_cases .double settings now selection with
      ⟨e, hwindow, hf⟩ | ⟨start, stop, hwindow, ⟨horder, hf⟩ | ⟨horder, hf⟩⟩
    · rw [hf]
      exact .uncomputed hselection hwindow
    · rw [hf]
      exact .backwards hselection hwindow horder
    · rw [hf]
      exact .windowed hselection hwindow horder (Filters.windowed_ofWindow horder)

/-- A part that is empty, too large or begins before the first record. -/
def Outside (settings : Settings) (offset : Int) (limit : Option Int) : Prop :=
  limit.getD settings.defaultLimit < 1 ∨ settings.maxLimitSize < limit.getD settings.defaultLimit ∨
    offset < 0

theorem ofQuery_cases (settings : Settings) (offset : Int) (limit : Option Int) :
    (Outside settings offset limit ∧
      ∃ e, PageMetadata.ofQuery settings offset limit = .error e ∧ e.blames = true) ∨
    (¬ Outside settings offset limit ∧ PageMetadata.ofQuery settings offset limit =
      .ok ⟨0, offset, limit.getD settings.defaultLimit⟩) := by
  unfold PageMetadata.ofQuery Outside
  dsimp only
  split
  · rename_i hlimit
    exact .inl ⟨hlimit.imp_right .inl, .queryLimit, rfl, rfl⟩
  · rename_i hlimit
    split
    · rename_i hoffset
      exact .inl ⟨.inr (.inr hoffset), .queryOffset, rfl, rfl⟩
    · rename_i hoffset
      exact .inr ⟨by omega, rfl⟩

/-- Why a query is refused at a route: bounds that cannot be read or are not in order, and for a page
a part outside the limits or one that cannot be read. -/
inductive Refused (settings : Settings) (now : Moment) (q : QueryFields) : Route → Prop
  | unread {route : Route} (h : q.selection? = none) : Refused settings now q route
  | backwards {route : Route} {selection : Selection} {start stop : Moment}
      (hselection : q.selection? = some selection)
      (hwindow : Filters.window .double settings now selection = .ok (start, stop))
      (horder : stop.instant < start.instant) : Refused settings now q route
  | outside {offset : Int} {limit : Option Int} (hpart : q.part? = some (offset, limit))
      (houtside : Outside settings offset limit) : Refused settings now q .page
  /-- Bounds are computed even if the part cannot be read, and fail as they fail without it. -/
  | unreadPart {selection : Selection} {window : Moment × Moment} (hpart : q.part? = none)
      (hselection : q.selection? = some selection)
      (hwindow : Filters.window .double settings now selection = .ok window) :
      Refused settings now q .page

def HasPart (settings : Settings) (q : QueryFields) : Prop :=
  ∃ offset limit, q.part? = some (offset, limit) ∧ ¬ Outside settings offset limit

theorem not_refused {selection : Selection} {route : Route}
    (hselection : q.selection? = some selection)
    (horder : ∀ start stop, Filters.window .double settings now selection = .ok (start, stop) →
      start.instant ≤ stop.instant)
    (hpart : route = .page → HasPart settings q ∨
      q.part? = none ∧ ∃ e, Filters.window .double settings now selection = .error e) :
    ¬ Refused settings now q route := by
  intro hrefused
  cases hrefused with
  | unread h =>
    rw [hselection] at h
    cases h
  | backwards hselection' hwindow hbackwards =>
    obtain rfl : selection = _ := Option.some.inj (hselection.symm.trans hselection')
    exact Int.not_lt.mpr (horder _ _ hwindow) hbackwards
  | outside hsome houtside =>
    rcases hpart rfl with ⟨offset, limit, hsome', hwithin⟩ | ⟨hnone, -⟩
    · rw [hsome] at hsome'
      cases hsome'
      exact hwithin houtside
    · rw [hsome] at hnone
      cases hnone
  | unreadPart hnone hselection' hwindow =>
    obtain rfl : selection = _ := Option.some.inj (hselection.symm.trans hselection')
    rcases hpart rfl with ⟨offset, limit, hsome, -⟩ | ⟨-, e, he⟩
    · rw [hnone] at hsome
      cases hsome
    · rw [hwindow] at he
      cases he

theorem not_refused_of_windowed {selection : Selection} {start stop : Moment} {route : Route}
    (hselection : q.selection? = some selection)
    (hwindow : Filters.window .double settings now selection = .ok (start, stop))
    (horder : start.instant ≤ stop.instant) (hpart : route = .page → HasPart settings q) :
    ¬ Refused settings now q route := by
  refine not_refused hselection (fun start' stop' hwindow' => ?_) fun hpage => .inl (hpart hpage)
  rw [hwindow] at hwindow'
  cases hwindow'
  exact horder

theorem not_refused_of_uncomputed {selection : Selection} {e : Failure} {route : Route}
    (hselection : q.selection? = some selection)
    (hwindow : Filters.window .double settings now selection = .error e)
    (hpart : route = .page → q.part? = none ∨ HasPart settings q) :
    ¬ Refused settings now q route := by
  refine not_refused hselection (fun start stop hwindow' => ?_) fun hpage => ?_
  · rw [hwindow] at hwindow'
    cases hwindow'
  · exact (hpart hpage).symm.imp_right fun hnone => ⟨hnone, e, hwindow⟩

end Queries

namespace Server

theorem status_ofFailure_eq_iff (f : Failure) :
    (Response.ofFailure f).status = 400 ↔ f.blames = true := by
  unfold Response.ofFailure Response.statusOf
  by_cases hblames : (f.isA .query || f.isA .location) = true
  · rw [if_pos hblames]
    exact ⟨fun _ => hblames, fun _ => rfl⟩
  · rw [if_neg hblames]
    refine ⟨fun hstatus => ?_, fun h => absurd h hblames⟩
    -- no other failure is told under this status
    by_cases hsaving : f.isA .saving = true
    · rw [if_pos hsaving] at hstatus
      cases hcause : (f.find? .invalidEvent).isSome <;> simp [hcause] at hstatus <;> cases hstatus
    rw [if_neg hsaving] at hstatus
    by_cases hreading : (f.isA .reading || f.isA .rendering) = true
    · rw [if_pos hreading] at hstatus
      cases hstatus
    rw [if_neg hreading] at hstatus
    cases htimeout : f.isA .timeout <;> simp [htimeout] at hstatus <;> cases hstatus

/-- What a route may send the database: statements of bounded windows and, for the dashboard, the
summary of all records. -/
inductive Sendable (settings : Settings) : Route → QueryKind → Statement → Prop
  | bounded {route : Route} {kind : QueryKind} {st : Statement} (h : Bounded settings kind st) :
      Sendable settings route kind st
  | unfiltered {st : Statement} (hst : st = Store.summaryStatement .empty)
      (hnone : st.parameters = []) : Sendable settings .dashboard .summary st

def Succeeds (t : Store.Traced Response) : Prop :=
  ∀ response, t.result = .ok response → response.status = 200

theorem succeeds_pure {response : Response} (h : response.status = 200) :
    Succeeds (pure response) := by
  rintro _ ⟨⟩
  exact h

theorem Succeeds.bind {α : Type} {t : Store.Traced α} {next : α → Store.Traced Response}
    (h : ∀ a, Succeeds (next a)) : Succeeds (t >>= next) := by
  intro response hresponse
  rw [Dashboard.result_bind] at hresponse
  obtain ⟨a, -, hnext⟩ := bind_eq_ok.mp hresponse
  exact h a response hnext

/-- An operation refuses what is refused, before it asks, and asks what it may. -/
structure Answers (refused : Prop) (sent : QueryKind → Statement → Prop)
    (t : Store.Traced Response) : Prop where
  refuses : (settle t.result).status = 400 ∧ Silent t.events ↔ refused
  sends : Sends sent t.events

section Answers

variable {refused : Prop} {sent : QueryKind → Statement → Prop}

theorem Answers.of_no_events (result : Except Failure Response)
    (h : (settle result).status = 400 ↔ refused) : Answers refused sent ⟨[], result⟩ where
  refuses := ⟨fun hstatus => h.mp hstatus.1, fun hrefused => ⟨h.mpr hrefused, nofun⟩⟩
  sends := .nil

theorem Answers.of_reads {t : Store.Traced Response} (h : ¬ refused) (ht : Reads sent t)
    (hok : Succeeds t) : Answers refused sent t where
  refuses := by
    refine ⟨fun ⟨hstatus, hsilent⟩ => absurd hsilent ?_, fun hrefused => absurd hrefused h⟩
    cases hresult : t.result with
    | ok response =>
      rw [hresult, settle, hok response hresult] at hstatus
      cases hstatus
    | error f =>
      rw [hresult] at hstatus
      exact ht.blames f hresult ((status_ofFailure_eq_iff f).mp hstatus)
  sends := ht.sends

end Answers

section Operations

variable {settings : Settings} {now : Moment} {q : QueryFields} {route : Route}
  {sent : QueryKind → Statement → Prop}

theorem answers_filters {next : Option Filters → Store.Traced Response}
    (hpart : route = .page → q.part? = none ∨ HasPart settings q)
    (hnone : next none = pure badQuery)
    (hsome : ∀ {selection start stop} f, q.selection? = some selection →
      Filters.window .double settings now selection = .ok (start, stop) →
      start.instant ≤ stop.instant → f.Windowed →
      Answers (Refused settings now q route) sent (next (some f))) :
    Answers (Refused settings now q route) sent
      (Store.Traced.ofExcept (q.filters settings now) >>= next) := by
  have hfound := found_filters settings now q
  generalize q.filters settings now = result at hfound ⊢
  cases hfound with
  | unread h =>
    have hbad : Store.Traced.ofExcept (.ok none) >>= next = ⟨[], .ok badQuery⟩ := by
      rw [Store.Traced.bind_of_ok rfl, hnone]
      rfl
    rw [hbad]
    exact .of_no_events _ ⟨fun _ => .unread h, fun _ => rfl⟩
  | uncomputed hselection hwindow =>
    refine .of_no_events (.error _) ⟨fun hstatus => ?_, fun hrefused => ?_⟩
    · have hblames := (status_ofFailure_eq_iff _).mp hstatus
      rw [Failure.blames_of_foreign (Filters.isA_own_of_window hwindow)] at hblames
      cases hblames
    · exact absurd hrefused (not_refused_of_uncomputed hselection hwindow hpart)
  | backwards hselection hwindow horder =>
    exact .of_no_events (.error .queryRange)
      ⟨fun _ => .backwards hselection hwindow horder, fun _ => rfl⟩
  | windowed hselection hwindow horder hf => exact hsome _ hselection hwindow horder hf

theorem ofExcept_ok_bind {α β : Type} (a : α) (next : α → Store.Traced β) :
    Store.Traced.ofExcept (.ok a) >>= next = next a :=
  rfl

theorem ofExcept_bind_bind {α β γ : Type} (x : Except Failure α) (f : α → Except Failure β)
    (next : β → Store.Traced γ) :
    Store.Traced.ofExcept (x >>= f) >>= next =
      Store.Traced.ofExcept x >>= fun a => Store.Traced.ofExcept (f a) >>= next := by
  cases x <;> rfl

theorem answers_page {p : Peers} {r : Request} (hdb : p.database.Foreign)
    (hlimits : settings.maxLimitSize ≤ settings.maxPageSize) :
    Answers (Refused settings p.now r.fields .page) (Sendable settings .page)
      (page settings p r) := by
  unfold page QueryFields.page QueryFields.metadata
  rw [ofExcept_bind_bind]
  cases hpart : QueryFields.part? r.fields with
  | none =>
    dsimp only
    rw [ofExcept_ok_bind, ofExcept_bind_bind]
    refine answers_filters (fun _ => .inl hpart) rfl fun f hselection hwindow _ _ => ?_
    exact .of_no_events (.ok badQuery)
      ⟨fun _ => .unreadPart hpart hselection hwindow, fun _ => rfl⟩
  | some part =>
    obtain ⟨offset, limit⟩ := part
    dsimp only
    rcases ofQuery_cases settings offset limit with ⟨houtside, e, he, hblames⟩ | ⟨hwithin, hok⟩
    · rw [he]
      exact .of_no_events (.error e)
        ⟨fun _ => .outside hpart houtside, fun _ => (status_ofFailure_eq_iff e).mpr hblames⟩
    have hhas : HasPart settings r.fields := ⟨offset, limit, hpart, hwithin⟩
    rw [hok, Except.map, ofExcept_ok_bind, ofExcept_bind_bind]
    refine answers_filters (fun _ => .inr hhas) rfl fun f hselection hwindow horder hf => ?_
    let part : PageMetadata := ⟨0, offset, limit.getD settings.defaultLimit⟩
    have hlimit : 1 ≤ part.limit ∧ part.limit ≤ settings.maxPageSize := by
      unfold Outside at hwithin
      dsimp only [part]
      omega
    have hoffset : 0 ≤ part.offset := by
      unfold Outside at hwithin
      dsimp only [part]
      omega
    have hpage : Reads (Sendable settings .page) (Store.retrievePage settings p.database part f) :=
      Store.reads_retrievePage hdb hlimit hoffset
        (.bounded (Store.bounded_pageStatement hf hlimit hoffset))
    change Answers _ _ (do
      let page ← Store.retrievePage settings p.database part f
      return .json 200 page.toJson)
    exact .of_reads (not_refused_of_windowed hselection hwindow horder fun _ => hhas)
      (hpage.bind fun page _ => .pure _) (.bind fun page => succeeds_pure rfl)

theorem answers_summary {p : Peers} {r : Request} (hdb : p.database.Foreign) :
    Answers (Refused settings p.now r.fields .summary) (Sendable settings .summary)
      (summary settings p r) := by
  unfold summary
  refine answers_filters nofun rfl fun f hselection hwindow horder hf => ?_
  refine .of_reads (not_refused_of_windowed hselection hwindow horder nofun) ?reads
    (.bind fun summary => .bind fun json => succeeds_pure rfl)
  refine .bind (Store.reads_retrieveSummary hdb
    (.bounded (Store.bounded_summaryStatement hf))) fun summary _ => ?_
  exact .bind (.ofExcept fun e he => blames_of_toJson he) fun json _ => .pure _

/-- The peers that a reading request meets fail in kinds that are not the server's own. -/
structure Foreign {σ : Type} (s : Server σ) (p : Peers) : Prop where
  database : p.database.Foreign
  template : ∀ f, s.templates.load s.settings.uiTemplate = .error f → f.isA .own = false

variable {σ : Type}

theorem reads_inquiry {s : Server σ} {p : Peers} (hp : s.Foreign p)
    (hlimit : 1 ≤ s.settings.uiPageLimit ∧ s.settings.uiPageLimit ≤ s.settings.maxPageSize)
    {f : Filters} (hf : f.Windowed) {q : Inquiry} (hq : q ∈ Dashboard.Call.inquiries f) :
    Reads (Sendable s.settings .dashboard) (q.ask s.settings p.database) := by
  simp only [Dashboard.Call.inquiries, List.mem_cons, List.not_mem_nil, or_false] at hq
  rcases hq with rfl | rfl | rfl
  · exact Store.reads_retrieveSummary hp.database (.bounded (Store.bounded_summaryStatement hf))
  · exact Store.reads_retrieveSummary hp.database (.unfiltered rfl rfl)
  · exact Store.reads_retrievePage hp.database hlimit (Int.le_refl 0)
      (.bounded (Store.bounded_pageStatement hf hlimit (Int.le_refl 0)))

theorem answers_dashboard [RandomSource σ] {s : Server σ} {p : Peers} {r : Request}
    (hp : s.Foreign p)
    (hlimit : 1 ≤ s.settings.uiPageLimit ∧ s.settings.uiPageLimit ≤ s.settings.maxPageSize)
    (c : Cache Answer σ) :
    Answers (Refused s.settings p.now r.fields .dashboard) (Sendable s.settings .dashboard)
      (dashboard s p r c).1 := by
  unfold dashboard
  rw [Serving.fst_bind]
  refine answers_filters nofun rfl fun f hselection hwindow horder hf => ?_
  have hserve : Serving.Reads (Sendable s.settings .dashboard) (Dashboard.serve s.settings
      s.templates p.database p.clock f : Serving σ (List Char)) :=
    reads_serve hp.template fun q hq => reads_inquiry hp hlimit hf hq
  refine .of_reads (not_refused_of_windowed hselection hwindow horder nofun)
    ((hserve.bind fun cs => .pure _) _) ?_
  dsimp only
  rw [Serving.fst_bind]
  exact .bind fun cs => succeeds_pure rfl

end Operations

section Respond

variable {σ : Type} [RandomSource σ]

def readingRoutes : List Route := [.page, .summary, .dashboard]

theorem find_reading {r : Request} {route : Route} (hroute : route ∈ readingRoutes)
    (hmethod : r.method = "GET") (hpath : route.hasPath r.target.path = true) :
    Destination.find r.method r.target.path = .operation route := by
  simp only [Route.hasPath, Bool.or_eq_true, beq_iff_eq] at hpath
  simp only [readingRoutes, List.mem_cons, List.not_mem_nil, or_false] at hroute
  rcases hroute with rfl | rfl | rfl <;> rcases hpath with hpath | hpath <;>
    rw [hmethod, hpath] <;> rfl

theorem respond_of_get (s : Server σ) (p : Peers) {r : Request} {route : Route}
    (hroute : route ∈ readingRoutes) (hmethod : r.method = "GET")
    (hpath : route.hasPath r.target.path = true) :
    (s.respond p r).1 = (s.operate p r route s.cache).1.events ∧
      (s.respond p r).2.1.status = (settle (s.operate p r route s.cache).1.result).status := by
  have hunguarded : Gate.guards s.settings r.method (s.addressPath r) = false :=
    Gate.guards_of_not_post s.settings (by rw [hmethod]; decide) _
  have hadmitted : (s.admission p r).1 = false := by
    unfold admission
    rw [hunguarded]
  exact s.respond_of_admitted hadmitted (find_reading hroute hmethod hpath)

/-- A request that reads is refused before the database is asked exactly if a value cannot be read,
its window ends before it begins, or its part lies outside the limits; an unreadable part is only
told where the bounds of the window can be computed. What the database is asked is bounded, but
for the summary of all records. -/
theorem respond_read (s : Server σ) {p : Peers} (hp : s.Foreign p)
    (hlimits : s.settings.maxLimitSize ≤ s.settings.maxPageSize)
    (hpage : 1 ≤ s.settings.uiPageLimit ∧ s.settings.uiPageLimit ≤ s.settings.maxPageSize)
    {r : Request} {route : Route} (hroute : route ∈ readingRoutes) (hmethod : r.method = "GET")
    (hpath : route.hasPath r.target.path = true) :
    let events := (s.respond p r).1
    let status := (s.respond p r).2.1.status
    (status = 400 ∧ Silent events ↔ Refused s.settings p.now r.fields route) ∧
      Sends (Sendable s.settings route) events := by
  intro events status
  obtain ⟨hevents, hstatus⟩ := s.respond_of_get p hroute hmethod hpath
  have hanswers : Answers (Refused s.settings p.now r.fields route) (Sendable s.settings route)
      (s.operate p r route s.cache).1 := by
    simp only [readingRoutes, List.mem_cons, List.not_mem_nil, or_false] at hroute
    rcases hroute with rfl | rfl | rfl
    · exact answers_page hp.database hlimits
    · exact answers_summary hp.database
    · exact answers_dashboard hp hpage s.cache
  dsimp only [events, status]
  rw [hevents, hstatus]
  exact ⟨hanswers.refuses, hanswers.sends⟩

end Respond

section Instances

def get (path query : String) : Request where
  method := "GET"
  target := ⟨"http".toList, "testserver".toList, path.toList, query.toList⟩
  headers := [("host", "testserver")]
  body := []
  client := "testclient"

def epochPeers : Peers :=
  { steadyPeers with now := Dashboard.epoch }

def plainServer (settings : Settings) (cache : Cache Answer Congruential) :
    Server Congruential where
  settings := settings
  templates := []
  cache := cache

theorem foreign_plainServer (settings : Settings) (cache : Cache Answer Congruential) :
    (plainServer settings cache).Foreign epochPeers where
  database := nofun
  template := by
    rintro f ⟨⟩
    rfl

def halfHour : Selection where
  start := some ⟨1704067200 * second, some 0, by decide, Moment.offset_lt_utc⟩
  stop := some ⟨1704069000 * second, some (3600 * second), by decide, Moment.offset_lt_hour⟩
  country := ""
  city := ""
  version := ""
  service := ""

/-- A window whose end reads later than its beginning but is the earlier instant. -/
theorem respond_laterReading : ∃ cache, Cache.make ⟨1, 1, 1⟩ ⟨1, []⟩ = .ok cache ∧
    let r := get "/" "from=2024-01-01T00:00:00Z&to=2024-01-01T00:30:00%2B01:00"
    let answer := (plainServer {} cache).respond epochPeers r
    answer.2.1.status = 400 ∧ Silent answer.1 := by
  refine ⟨_, rfl, ?_⟩
  have hroute : Route.dashboard ∈ readingRoutes := by decide
  refine ((plainServer {} _).respond_read (foreign_plainServer {} _) (by decide) (by decide)
    hroute rfl rfl).1.mpr ?_
  have hselection : QueryFields.selection?
      (get "/" "from=2024-01-01T00:00:00Z&to=2024-01-01T00:30:00%2B01:00").fields =
        some halfHour := by decide +kernel
  exact .backwards hselection rfl (by decide)

/-- Where the default window begins before all years, an unreadable part is not told. -/
theorem respond_endlessWindow : ∃ cache, Cache.make ⟨1, 1, 1⟩ ⟨1, []⟩ = .ok cache ∧
    let settings : Settings := { defaultWindowDays := 10000000 }
    let r := get "/telemetry" "offset=abc"
    (1 ≤ settings.maxLimitSize ∧ settings.maxLimitSize ≤ settings.maxPageSize) ∧
      (1 ≤ settings.uiPageLimit ∧ settings.uiPageLimit ≤ settings.maxPageSize) ∧
      QueryFields.part? r.fields = none ∧
      ((plainServer settings cache).respond epochPeers r).2.1.status = 500 := by
  refine ⟨_, rfl, by decide, by decide, ?part, ?status⟩
  case part => decide +kernel
  case status => decide +kernel

end Instances

end Server

end Web

end Census
