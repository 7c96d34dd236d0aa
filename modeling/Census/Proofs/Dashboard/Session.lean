import Census.Dashboard.Serve
import Census.Proofs.Cache.Demand

/-! Calls of the dashboard that overlap. A call looks for its three answers one after another; where
the cache has none, it waits for the store, and other calls run until the store has answered. Clock
and store may have changed at every step. A call that nothing overlaps runs as it is served. -/
namespace Census.Dashboard

structure Answering where
  summary : Filters → Except Failure Summary
  page : PageMetadata → Filters → Except Failure Page

def Answering.ofDatabase (settings : Settings) (db : Store.Database) : Answering where
  summary f := (Store.retrieveSummary settings db f).result
  page page f := (Store.retrievePage settings db page f).result

abbrev Replies := QueryKind → Store.Statement → Except Failure (List Row)

def Answering.ofReplies (settings : Settings) (replies : Replies) : Answering where
  summary f := do
    let rows ← replies .summary (Store.summaryStatement f)
    Summary.ofRows rows
  page page f := do
    if page.limit < 1 ∨ settings.maxPageSize < page.limit then throw (.pageLimit page.limit)
    if page.offset < 0 then throw (.pageOffset page.offset)
    let rows ← replies .page (Store.pageStatement page f)
    let records ← rows.mapM Record.ofRow
    return ⟨⟨records.length, page.offset, page.limit⟩, records⟩

theorem result_bind {α β : Type} (t : Store.Traced α) (f : α → Store.Traced β) :
    (t >>= f).result = t.result >>= fun a => (f a).result := by
  cases h : t.result with
  | ok a =>
    rw [Store.Traced.bind_of_ok h]
    rfl
  | error e =>
    rw [Store.Traced.bind_of_error h]
    rfl

theorem ofDatabase_eq_ofReplies (settings : Settings) (db : Store.Database) :
    Answering.ofDatabase settings db =
      .ofReplies settings fun kind statement => (Store.query settings db kind statement).result := by
  unfold Answering.ofDatabase Answering.ofReplies
  congr 1
  · funext f
    exact result_bind _ _
  · funext page f
    unfold Store.retrievePage
    by_cases hlimit : page.limit < 1 ∨ settings.maxPageSize < page.limit
    · simp only [if_pos hlimit]
      rfl
    · by_cases hoffset : page.offset < 0
      · simp only [if_neg hlimit, if_pos hoffset]
        rfl
      · simp only [if_neg hlimit, if_neg hoffset]
        rw [result_bind]
        congr 1
        funext rows
        exact result_bind _ _

/-- The answer to an inquiry; of pages, the whole one is asked for. -/
def Answering.answer (settings : Settings) (store : Answering) : Inquiry → Except Failure Answer
  | ⟨.summary, f⟩ => (store.summary f).map (Answer.mk .summary)
  | ⟨.page, f⟩ => (store.page (Inquiry.wholePage settings) f).map (Answer.mk .page)

theorem map_eq_ok {α β : Type} {r : Except Failure α} {f : α → β} {b : β} :
    r.map f = .ok b ↔ ∃ a, r = .ok a ∧ f a = b := by
  cases r with
  | error e => exact ⟨nofun, nofun⟩
  | ok a => exact ⟨fun h => ⟨a, rfl, Except.ok.inj h⟩, fun ⟨_, hr, hb⟩ => by cases hr; rw [← hb]; rfl⟩

theorem answer_summary {settings : Settings} {store : Answering} {f : Filters} {a : Answer} :
    store.answer settings ⟨.summary, f⟩ = .ok a ↔
      ∃ summary, store.summary f = .ok summary ∧ ⟨.summary, summary⟩ = a :=
  map_eq_ok

theorem answer_page {settings : Settings} {store : Answering} {f : Filters} {a : Answer} :
    store.answer settings ⟨.page, f⟩ = .ok a ↔
      ∃ page, store.page (Inquiry.wholePage settings) f = .ok page ∧ ⟨.page, page⟩ = a :=
  map_eq_ok

theorem kind_of_answer {settings : Settings} {store : Answering} {q : Inquiry} {a : Answer}
    (h : store.answer settings q = .ok a) : a.kind = q.kind := by
  obtain ⟨kind, f⟩ := q
  cases kind with
  | summary =>
    obtain ⟨summary, -, rfl⟩ := answer_summary.mp h
    rfl
  | page =>
    obtain ⟨page, -, rfl⟩ := answer_page.mp h
    rfl

theorem eq_of_of? {kind : QueryKind} {a : Answer} {r : kind.Result}
    (h : Answer.of? kind a = some r) : a = ⟨kind, r⟩ := by
  obtain ⟨kind', result⟩ := a
  cases kind <;> cases kind' <;> cases h <;> rfl

def markup (template : Template) (f : Filters) (summary unfiltered : Summary) (page : Page) :
    Except Failure (List Char) := do
  let view ← View.make f summary unfiltered page
  (template.render view).mapError (templateFailure .rendering)

theorem serving_markup {σ : Type} (template : Template) (f : Filters) (summary unfiltered : Summary)
    (page : Page) (c : Cache Answer σ) :
    (Serving.ofExcept (View.make f summary unfiltered page) >>= fun view =>
      Serving.ofExcept ((template.render view).mapError (templateFailure .rendering))) c =
      (⟨[], markup template f summary unfiltered page⟩, c) := by
  unfold markup
  cases View.make f summary unfiltered page <;> rfl

structure Call where
  filters : Filters
  template : Template
  answers : List Answer
  asking : Bool

namespace Call

def inquiries (f : Filters) : List Inquiry :=
  [⟨.summary, f⟩, ⟨.summary, .empty⟩, ⟨.page, f⟩]

def next? (c : Call) : Option Inquiry :=
  (inquiries c.filters)[c.answers.length]?

def take (c : Call) (a : Answer) : Call :=
  { c with answers := c.answers ++ [a], asking := false }

def markup? (c : Call) : Option (Except Failure (List Char)) :=
  match c.answers with
  | [⟨.summary, summary⟩, ⟨.summary, unfiltered⟩, ⟨.page, page⟩] =>
    some (markup c.template c.filters summary unfiltered page)
  | _ => none

def start (settings : Settings) (templates : Templates) (f : Filters) : Except Failure Call :=
  ((templates.load settings.uiTemplate).mapError (templateFailure .template)).map fun template =>
    ⟨f, template, [], false⟩

end Call

inductive Event
  | call (f : Filters)
  /-- A call runs until it waits for the store or has one answer more. -/
  | look (i : Nat) (now : Float)
  /-- The store answers a call that waits for it. -/
  | answer (i : Nat) (store : Answering) (now : Float)

/-- Calls around one cache; some have failed. -/
structure Session (σ : Type) where
  cache : Cache Answer σ
  calls : List (Except Failure Call)

namespace Session

variable {σ : Type}

def at? (s : Session σ) (i : Nat) (asking : Bool) : Option (Call × Inquiry) :=
  match s.calls[i]? with
  | some (.ok c) => if c.asking = asking then c.next?.map fun q => (c, q) else none
  | _ => none

theorem at?_singleton (c : Cache Answer σ) {call : Call} {q : Inquiry} {asking : Bool}
    (hasking : call.asking = asking) (hnext : call.next? = some q) :
    (⟨c, [.ok call]⟩ : Session σ).at? 0 asking = some (call, q) := by
  unfold at?
  simp [hasking, hnext]

theorem at?_eq_some {s : Session σ} {i : Nat} {asking : Bool} {c : Call} {q : Inquiry}
    (h : s.at? i asking = some (c, q)) :
    s.calls[i]? = some (.ok c) ∧ c.asking = asking ∧ c.next? = some q := by
  unfold at? at h
  split at h
  · rename_i call hcall
    split at h
    · rename_i hasking
      obtain ⟨asked, hnext, heq⟩ := Option.map_eq_some_iff.mp h
      obtain ⟨rfl, rfl⟩ := Prod.mk.inj heq
      exact ⟨hcall, hasking, hnext⟩
    · cases h
  · cases h

def put (s : Session σ) (i : Nat) (c : Except Failure Call) : Session σ :=
  { s with calls := s.calls.set i c }

def look (settings : Settings) (s : Session σ) (i : Nat) (now : Float) (c : Call) (q : Inquiry)
    (key : String) : Session σ :=
  let (found, cache) := s.cache.live? key now settings.cacheTtlSeconds
  let c := match found.bind (Answer.of? q.kind) with
    | some r => c.take ⟨q.kind, r⟩
    | none => { c with asking := true }
  { s with cache := cache }.put i (.ok c)

theorem calls_put {s : Session σ} {i j : Nat} {c d : Except Failure Call}
    (h : (s.put i c).calls[j]? = some d) : (i = j ∧ d = c) ∨ s.calls[j]? = some d := by
  unfold put at h
  rw [List.getElem?_set] at h
  split at h
  · rename_i heq
    split at h
    · exact .inl ⟨heq, (Option.some.inj h).symm⟩
    · cases h
  · exact .inr h

variable [RandomSource σ]

def receive (settings : Settings) (s : Session σ) (i : Nat) (now : Float) (c : Call) (q : Inquiry)
    (key : String) (a : Answer) : Session σ :=
  { s with cache := s.cache.keep key a now (q.cost settings) }.put i (.ok (c.take a))

def step (settings : Settings) (templates : Templates) (s : Session σ) : Event → Session σ
  | .call f => { s with calls := s.calls ++ [Call.start settings templates f] }
  | .look i now =>
    match s.at? i false with
    | none => s
    | some (c, q) =>
      match q.key with
      | .ok key => s.look settings i now c q key
      | .error e => s.put i (.error e)
  | .answer i store now =>
    match s.at? i true with
    | none => s
    | some (c, q) =>
      match q.key, store.answer settings q with
      | .ok key, .ok a => s.receive settings i now c q key a
      | .error e, _ => s.put i (.error e)
      | _, .error e => s.put i (.error e)

def run (settings : Settings) (templates : Templates) (s : Session σ) (events : List Event) :
    Session σ :=
  events.foldl (step settings templates) s

variable {settings : Settings} {templates : Templates}

theorem run_append (s : Session σ) (before after : List Event) :
    s.run settings templates (before ++ after) =
      (s.run settings templates before).run settings templates after :=
  List.foldl_append

theorem run_append_singleton (s : Session σ) (before : List Event) (e : Event) :
    s.run settings templates (before ++ [e]) =
      (s.run settings templates before).step settings templates e := by
  rw [run_append]
  rfl

theorem look_cases (settings : Settings) (templates : Templates) (s : Session σ) (i : Nat)
    (now : Float) :
    s.step settings templates (.look i now) = s ∨
    ∃ c q, s.at? i false = some (c, q) ∧
      ((∃ e, s.step settings templates (.look i now) = s.put i (.error e)) ∨
      ∃ key, q.key = .ok key ∧
        ((∃ r, (s.cache.live? key now settings.cacheTtlSeconds).1 = some ⟨q.kind, r⟩ ∧
          s.step settings templates (.look i now) =
            { s with cache := (s.cache.get key false).2 }.put i (.ok (c.take ⟨q.kind, r⟩))) ∨
        s.step settings templates (.look i now) =
          { s with cache := (s.cache.get key false).2 }.put i (.ok { c with asking := true }))) := by
  unfold step
  dsimp only
  cases hat : s.at? i false with
  | none => exact .inl rfl
  | some found =>
    obtain ⟨c, q⟩ := found
    refine .inr ⟨c, q, rfl, ?_⟩
    dsimp only
    cases hkey : q.key with
    | error e => exact .inl ⟨e, rfl⟩
    | ok key =>
      refine .inr ⟨key, rfl, ?_⟩
      dsimp only
      unfold look
      cases hlive : (s.cache.live? key now settings.cacheTtlSeconds).1.bind (Answer.of? q.kind) with
      | none =>
        refine .inr ?_
        dsimp only
        rw [hlive]
        rfl
      | some r =>
        obtain ⟨a, ha, hr⟩ := Option.bind_eq_some_iff.mp hlive
        rw [eq_of_of? hr] at ha
        refine .inl ⟨r, ha, ?_⟩
        dsimp only
        rw [hlive]
        rfl

theorem answer_cases (settings : Settings) (templates : Templates) (s : Session σ) (i : Nat)
    (store : Answering) (now : Float) :
    s.step settings templates (.answer i store now) = s ∨
    ∃ c q, s.at? i true = some (c, q) ∧
      ((∃ e, s.step settings templates (.answer i store now) = s.put i (.error e)) ∨
      ∃ key a, q.key = .ok key ∧ store.answer settings q = .ok a ∧
        s.step settings templates (.answer i store now) = s.receive settings i now c q key a) := by
  unfold step
  dsimp only
  cases hat : s.at? i true with
  | none => exact .inl rfl
  | some found =>
    obtain ⟨c, q⟩ := found
    refine .inr ⟨c, q, rfl, ?_⟩
    dsimp only
    cases hkey : q.key with
    | error e => exact .inl ⟨e, rfl⟩
    | ok key =>
      cases hanswer : store.answer settings q with
      | error e => exact .inl ⟨e, rfl⟩
      | ok a => exact .inr ⟨key, a, rfl, rfl, rfl⟩

end Session

section Alone

variable {σ : Type} [RandomSource σ] {settings : Settings} {templates : Templates}
  {db : Store.Database} {clock : Float} {q : Inquiry} {key : String} {c : Cache Answer σ}

theorem resolve_of_error {e : Failure} (h : q.key = .error e) :
    Inquiry.resolve settings db clock q c = (⟨[], .error e⟩, c) := by
  unfold Inquiry.resolve
  rw [h]
  rfl

theorem resolve_of_some {r : q.kind.Result} (h : q.key = .ok key)
    (hfound : (c.live? key clock settings.cacheTtlSeconds).1.bind (Answer.of? q.kind) = some r) :
    Inquiry.resolve settings db clock q c =
      (⟨[], .ok r⟩, (c.live? key clock settings.cacheTtlSeconds).2) := by
  have hlive : Inquiry.live? settings clock q key c =
      (⟨[], .ok (some r)⟩, (c.live? key clock settings.cacheTtlSeconds).2) := by
    unfold Inquiry.live? Serving.use
    dsimp only
    rw [hfound]
    rfl
  unfold Inquiry.resolve
  rw [h]
  simp only [Bind.bind, Serving.bind, Serving.ofExcept, Serving.lift, Store.Traced.ofExcept, hlive]
  rfl

theorem resolve_of_none (h : q.key = .ok key)
    (hnone : (c.live? key clock settings.cacheTtlSeconds).1.bind (Answer.of? q.kind) = none) :
    (Inquiry.resolve settings db clock q c).1.result = (q.ask settings db).result ∧
      (Inquiry.resolve settings db clock q c).2 =
        match (q.ask settings db).result with
        | .ok r => (c.live? key clock settings.cacheTtlSeconds).2.keep key ⟨q.kind, r⟩ clock
            (q.cost settings)
        | .error _ => (c.live? key clock settings.cacheTtlSeconds).2 := by
  have hlive : Inquiry.live? settings clock q key c =
      (⟨[], .ok none⟩, (c.live? key clock settings.cacheTtlSeconds).2) := by
    unfold Inquiry.live? Serving.use
    dsimp only
    rw [hnone]
    rfl
  unfold Inquiry.resolve
  rw [h]
  simp only [Bind.bind, Serving.bind, Serving.ofExcept, Serving.lift, Store.Traced.ofExcept, hlive]
  cases (q.ask settings db).result with
  | ok r => exact ⟨rfl, rfl⟩
  | error e => exact ⟨rfl, rfl⟩

/-- An inquiry demands the answer of its database, unless one of another kind has its key. -/
theorem resolve_eq_demand (h : q.key = .ok key)
    (hkind : ∀ a, (c.live? key clock settings.cacheTtlSeconds).1 = some a → a.kind = q.kind)
    {d : Cache.Demanded Answer Failure σ}
    (hd : c.demand key clock settings.cacheTtlSeconds
      ⟨[], (q.ask settings db).result.map fun r => (⟨q.kind, r⟩, clock)⟩ (q.cost settings) = d) :
    (Inquiry.resolve settings db clock q c).1.result.map (Answer.mk q.kind) = d.answer ∧
      (Inquiry.resolve settings db clock q c).2 = d.cache := by
  subst hd
  cases hlive : (c.live? key clock settings.cacheTtlSeconds).1 with
  | some a =>
    obtain ⟨r, rfl⟩ : ∃ r, a = ⟨q.kind, r⟩ := by
      have hsame := hkind a hlive
      obtain ⟨kind, result⟩ := a
      dsimp only at hsame
      subst hsame
      exact ⟨result, rfl⟩
    rw [resolve_of_some h (by rw [hlive]; exact Answer.of?_mk q.kind r),
      Cache.demand_of_fresh hlive]
    exact ⟨rfl, rfl⟩
  | none =>
    obtain ⟨hresult, hcache⟩ := @resolve_of_none σ _ settings db clock q key c h (by rw [hlive]; rfl)
    rw [hresult, hcache, Cache.demand_of_stale hlive]
    cases (q.ask settings db).result with
    | ok r => exact ⟨rfl, rfl⟩
    | error e => exact ⟨rfl, rfl⟩

theorem answer_ofDatabase (settings : Settings) (db : Store.Database) (q : Inquiry) :
    (Answering.ofDatabase settings db).answer settings q =
      (q.ask settings db).result.map (Answer.mk q.kind) := by
  obtain ⟨kind, f⟩ := q
  cases kind <;> rfl

namespace Session

theorem exists_run_resolve (settings : Settings) (templates : Templates) (db : Store.Database)
    (clock : Float) (c : Cache Answer σ) {call : Call} (hasking : call.asking = false)
    (hnext : call.next? = some q) :
    ∃ events, (⟨c, [.ok call]⟩ : Session σ).run settings templates events =
      ⟨(Inquiry.resolve settings db clock q c).2,
        [(Inquiry.resolve settings db clock q c).1.result.map fun r => call.take ⟨q.kind, r⟩]⟩ := by
  have hlook := at?_singleton c hasking hnext
  cases hkey : q.key with
  | error e =>
    refine ⟨[.look 0 clock], ?_⟩
    rw [resolve_of_error hkey]
    simp [run, step, hlook, hkey, put]
    rfl
  | ok key =>
    cases hfound : (c.live? key clock settings.cacheTtlSeconds).1.bind (Answer.of? q.kind) with
    | some r =>
      refine ⟨[.look 0 clock], ?_⟩
      rw [resolve_of_some hkey hfound]
      simp [run, step, hlook, hkey, put, look, hfound]
      rfl
    | none =>
      obtain ⟨hresult, hcache⟩ := @resolve_of_none σ _ settings db clock q key c hkey hfound
      have hanswer := @at?_singleton σ (c.live? key clock settings.cacheTtlSeconds).2
        { call with asking := true } q true rfl hnext
      -- on a miss the call first begins to wait
      refine ⟨[.look 0 clock, .answer 0 (.ofDatabase settings db) clock], ?_⟩
      rw [hresult, hcache]
      have hwaits : (⟨c, [.ok call]⟩ : Session σ).step settings templates (.look 0 clock) =
          ⟨(c.live? key clock settings.cacheTtlSeconds).2,
            [.ok { call with asking := true }]⟩ := by
        simp [step, hlook, hkey, put, look, hfound]
      unfold run
      rw [List.foldl_cons, hwaits]
      simp only [List.foldl_cons, List.foldl_nil, step, hanswer, hkey, answer_ofDatabase]
      cases (q.ask settings db).result with
      | error e => rfl
      | ok r => rfl

def outcome? : Except Failure Call → Option (Except Failure (List Char))
  | .error e => some (.error e)
  | .ok call => call.markup?

def EndsAs (settings : Settings) (templates : Templates) (s : Session σ)
    (t : Store.Traced (List Char) × Cache Answer σ) : Prop :=
  ∃ events call, s.run settings templates events = ⟨t.2, [call]⟩ ∧
    outcome? call = some t.1.result

theorem EndsAs.after {s s' : Session σ} {t : Store.Traced (List Char) × Cache Answer σ}
    (before : List Event) (hbefore : s.run settings templates before = s')
    (h : EndsAs settings templates s' t) : EndsAs settings templates s t := by
  obtain ⟨events, call, hrun, houtcome⟩ := h
  refine ⟨before ++ events, call, ?_, houtcome⟩
  rw [run_append, hbefore, hrun]

theorem endsAs_ofExcept {s : Session σ} {α : Type} {a : α} {next : α → Serving σ (List Char)}
    (h : EndsAs settings templates s (next a c)) :
    EndsAs settings templates s ((Serving.ofExcept (.ok a) >>= next) c) :=
  h

theorem endsAs_resolve {call : Call} (hasking : call.asking = false) (hnext : call.next? = some q)
    {next : q.kind.Result → Serving σ (List Char)}
    (hrest : ∀ r c, EndsAs settings templates ⟨c, [.ok (call.take ⟨q.kind, r⟩)]⟩ (next r c)) :
    EndsAs settings templates ⟨c, [.ok call]⟩
      ((Inquiry.resolve settings db clock q >>= next) c) := by
  obtain ⟨events, hrun⟩ := exists_run_resolve settings templates db clock c hasking hnext
  cases hresult : (Inquiry.resolve settings db clock q c).1.result with
  | error e =>
    rw [hresult] at hrun
    refine ⟨events, .error e, ?_, ?_⟩
    · rw [hrun, Serving.bind_of_error hresult]
      rfl
    · rw [Serving.bind_of_error hresult]
      rfl
  | ok r =>
    rw [hresult] at hrun
    obtain ⟨more, last, hlast, houtcome⟩ := hrest r (Inquiry.resolve settings db clock q c).2
    refine ⟨events ++ more, last, ?_, ?_⟩
    · rw [run_append, hrun, Serving.bind_of_ok hresult]
      exact hlast
    · rw [Serving.bind_of_ok hresult]
      exact houtcome

/-- A call that is alone, with one store and a clock that stands, ends as it is served. -/
theorem endsAs_serve (settings : Settings) (templates : Templates) (db : Store.Database)
    (clock : Float) (f : Filters) (c : Cache Answer σ) :
    EndsAs settings templates ⟨c, []⟩ (serve settings templates db clock f c) := by
  have hcall : (⟨c, []⟩ : Session σ).run settings templates [.call f] =
      ⟨c, [Call.start settings templates f]⟩ := rfl
  unfold Call.start at hcall
  unfold serve
  cases hload : (templates.load settings.uiTemplate).mapError (templateFailure .template) with
  | error e =>
    rw [hload] at hcall
    exact ⟨[.call f], .error e, hcall, rfl⟩
  | ok template =>
    rw [hload] at hcall
    refine EndsAs.after [.call f] hcall (endsAs_ofExcept ?_)
    refine endsAs_resolve rfl rfl fun summary c => ?_
    refine endsAs_resolve rfl rfl fun unfiltered c => ?_
    refine endsAs_resolve rfl rfl fun page c => ?_
    rw [serving_markup]
    exact ⟨[], _, rfl, rfl⟩

end Session

end Alone

end Census.Dashboard
