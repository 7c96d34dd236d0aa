import Census.Proofs.Filters.Condition
import Census.Proofs.Filters.Window
import Census.Store.Basic

/-! Operations that only read: what they may send the database, and that a query is blamed by none
of them before the database has seen it. -/
namespace Census

namespace FailureKind

theorem isA_query_or_location_of_not_own {k : FailureKind} (h : k.isA .own = false) :
    (k.isA .query || k.isA .location) = false := by
  cases k <;> first | rfl | cases h

end FailureKind

/-- Failures that are told to a client as faults of what it asked. -/
def Failure.blames (f : Failure) : Bool :=
  f.isA .query || f.isA .location

theorem Failure.blames_of_foreign {f : Failure} (h : f.isA .own = false) : f.blames = false :=
  FailureKind.isA_query_or_location_of_not_own h

namespace Store

def Sends (sent : QueryKind → Statement → Prop) (events : List Event) : Prop :=
  ∀ e ∈ events, e = .pool ∨ ∃ kind st, e = .query kind st ∧ sent kind st

def Silent (events : List Event) : Prop :=
  ∀ e ∈ events, e = .pool

section Events

variable {sent : QueryKind → Statement → Prop} {before after : List Event}

theorem Sends.nil : Sends sent [] := nofun

theorem Sends.append (hbefore : Sends sent before) (hafter : Sends sent after) :
    Sends sent (before ++ after) := fun e he =>
  (List.mem_append.mp he).elim (hbefore e) (hafter e)

end Events

/-- An operation that sends the database known queries, and blames none before it was sent. -/
structure Reads {α : Type} (sent : QueryKind → Statement → Prop) (t : Traced α) : Prop where
  sends : Sends sent t.events
  blames : ∀ f, t.result = .error f → f.blames = true → ¬ Silent t.events

/-- A database that cannot be reached says so in a kind of failure that is not this library's. -/
def Database.Foreign (db : Database) : Prop :=
  ∀ f, db.connect = some f → f.isA .own = false

section Operations

variable {α β : Type} {sent : QueryKind → Statement → Prop} {settings : Settings} {db : Database}

theorem Reads.ofExcept {r : Except Failure α} (h : ∀ f, r = .error f → f.blames = false) :
    Reads sent (Traced.ofExcept r) where
  sends := .nil
  blames := fun f hf hblames => by
    rw [h f hf] at hblames
    cases hblames

theorem Reads.pure (a : α) : Reads sent (Traced.pure a) :=
  .ofExcept (r := .ok a) nofun

theorem Reads.bind {t : Traced α} {f : α → Traced β} (ht : Reads sent t)
    (hf : ∀ a, t.result = .ok a → Reads sent (f a)) : Reads sent (t >>= f) := by
  cases hresult : t.result with
  | error e =>
    rw [Traced.bind_of_error hresult]
    refine ⟨ht.sends, fun e' he => ?_⟩
    obtain rfl : e = e' := Except.error.inj he
    exact ht.blames e hresult
  | ok a =>
    rw [Traced.bind_of_ok hresult]
    refine ⟨ht.sends.append (hf a hresult).sends, fun e he hblames hsilent => ?_⟩
    exact (hf a hresult).blames e he hblames fun e he =>
      hsilent e (List.mem_append_right t.events he)

/-- A query that fails early has sent nothing, but then it is not to blame. -/
theorem query_cases (settings : Settings) (hdb : db.Foreign) (kind : QueryKind) (st : Statement) :
    (query settings db kind st).events = [.pool, .query kind st] ∨
    ∃ f, query settings db kind st = ⟨[.pool], .error f⟩ ∧ f.blames = false := by
  unfold query
  by_cases htime : settings.dbQueryTimeoutSeconds ≤ 0.0
  · refine .inr ⟨timeout, ?_, rfl⟩
    rw [if_pos htime]
    rfl
  rw [if_neg htime]
  unfold fetch
  cases hconnect : db.connect with
  | some f =>
    refine .inr ⟨if isDatabaseFailure f then .unreadable f else f, rfl, ?_⟩
    split
    · rfl
    · exact Failure.blames_of_foreign (hdb f hconnect)
  | none =>
    refine .inl ?_
    by_cases hhangs : db.hangs.contains kind = true
    · rw [if_pos hhangs]
      rfl
    · rw [if_neg hhangs]
      cases db.queryFailure kind <;> rfl

theorem reads_query_bind (hdb : db.Foreign) {kind : QueryKind} {st : Statement}
    (hst : sent kind st) {f : List Row → Traced α} (hf : ∀ rows, (f rows).events = []) :
    Reads sent (query settings db kind st >>= f) := by
  have hsends : Sends sent [.pool, .query kind st] := by
    intro e he
    simp only [List.mem_cons, List.not_mem_nil, or_false] at he
    rcases he with rfl | rfl
    · exact .inl rfl
    · exact .inr ⟨kind, st, rfl, hst⟩
  have hspoken : ¬ Silent [.pool, .query kind st] := fun h => by
    cases h (.query kind st) (by simp)
  rcases query_cases settings hdb kind st with hevents | ⟨e, hearly, hblames⟩
  · have hall : (query settings db kind st >>= f).events = [.pool, .query kind st] := by
      cases hresult : (query settings db kind st).result with
      | error e => rw [Traced.bind_of_error hresult, hevents]
      | ok rows => rw [Traced.bind_of_ok hresult, hevents, hf rows, List.append_nil]
    exact ⟨hall ▸ hsends, fun _ _ _ => hall ▸ hspoken⟩
  · rw [hearly, Traced.bind_of_error rfl]
    refine ⟨fun e he => .inl (List.mem_singleton.mp he), fun e' he hblamed => ?_⟩
    obtain rfl : e = e' := Except.error.inj he
    rw [hblames] at hblamed
    cases hblamed

theorem reads_retrieveSummary (hdb : db.Foreign) {f : Filters}
    (hst : sent .summary (summaryStatement f)) : Reads sent (retrieveSummary settings db f) :=
  reads_query_bind hdb hst fun _ => rfl

theorem reads_retrievePage (hdb : db.Foreign) {page : PageMetadata} {f : Filters}
    (hlimit : 1 ≤ page.limit ∧ page.limit ≤ settings.maxPageSize) (hoffset : 0 ≤ page.offset)
    (hst : sent .page (pageStatement page f)) :
    Reads sent (retrievePage settings db page f) := by
  unfold retrievePage
  rw [if_neg (by omega), if_neg (by omega)]
  refine reads_query_bind hdb hst fun rows => ?_
  cases rows.mapM Record.ofRow <;> rfl

end Operations

section Bounds

/-- A statement that binds a window in order with bounds of known offsets and, for a page, a part
that is neither empty nor larger than the store allows. -/
structure Bounded (settings : Settings) (kind : QueryKind) (st : Statement) : Prop where
  window : ∃ start stop : Time.Moment,
    st.parameters.lookup "from" = some (.moment start) ∧
    st.parameters.lookup "to" = some (.moment stop) ∧
    start.offset.isSome = true ∧ stop.offset.isSome = true ∧ start.instant ≤ stop.instant
  part : kind = .page → ∃ limit offset : Int,
    st.parameters.lookup "limit" = some (.plain (.int limit)) ∧
    st.parameters.lookup "offset" = some (.plain (.int offset)) ∧
    1 ≤ limit ∧ limit ≤ settings.maxPageSize ∧ 0 ≤ offset

variable {settings : Settings} {f : Filters}

theorem lookup_window {start stop : Time.Moment} (hstart : f.start = some start)
    (hstop : f.stop = some stop) : f.parameters.lookup "from" = some (.moment start) ∧
      f.parameters.lookup "to" = some (.moment stop) := by
  rw [Filters.lookup_parameters, Filters.lookup_parameters, hstart, hstop]
  simp [Filters.momentCell]

theorem lookup_part (f : Filters) :
    f.parameters.lookup "limit" = none ∧ f.parameters.lookup "offset" = none := by
  rw [Filters.lookup_parameters, Filters.lookup_parameters]
  simp

theorem bounded_summaryStatement (h : f.Windowed) :
    Bounded settings .summary (summaryStatement f) := by
  obtain ⟨start, stop, hstart, hstop, horder⟩ := h
  obtain ⟨hfrom, hto⟩ := lookup_window hstart hstop
  exact ⟨⟨start, stop, hfrom, hto, horder⟩, nofun⟩

theorem bounded_pageStatement (h : f.Windowed) {page : PageMetadata}
    (hlimit : 1 ≤ page.limit ∧ page.limit ≤ settings.maxPageSize) (hoffset : 0 ≤ page.offset) :
    Bounded settings .page (pageStatement page f) := by
  obtain ⟨start, stop, hstart, hstop, horder⟩ := h
  obtain ⟨hfrom, hto⟩ := lookup_window hstart hstop
  refine ⟨⟨start, stop, ?_, ?_, horder⟩, fun _ => ⟨page.limit, page.offset, ?_, ?_, ?_⟩⟩
  · rw [pageStatement, List.lookup_append, hfrom, Option.some_or]
  · rw [pageStatement, List.lookup_append, hto, Option.some_or]
  · rw [pageStatement, List.lookup_append, (lookup_part f).1]
    rfl
  · rw [pageStatement, List.lookup_append, (lookup_part f).2]
    rfl
  · exact ⟨hlimit.1, hlimit.2, hoffset⟩

end Bounds

end Store

end Census
