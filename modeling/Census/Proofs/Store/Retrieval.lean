import Census.Proofs.Record.Columns

/-! How the rows of a query are retrieved. The database is asked at most once, and only over a connection
that was acquired in time; its own failures are told as failures to read, all others as they are. -/
namespace Census

theorem FailureKind.isA_of_timeout {k : FailureKind} (h : k.isA .timeout = true) :
    k.isA .database = false ∧ k.isA .reading = false := by
  cases k with
  | timeout => decide
  | _ => cases h

namespace Store

def queries (events : List Event) : List Statement :=
  events.filterMap fun
    | .query _ st => some st
    | _ => none

def told (f : Failure) : Failure :=
  if isDatabaseFailure f then .unreadable f else f

/-- The courses that the retrieval of an answer may take, each with its events and its end. -/
inductive Retrieval {α : Type} (settings : Settings) (db : Database) (kind : QueryKind)
    (st : Statement) (answer : Except Failure α) : Traced α → Prop
  | overdue (htime : settings.dbQueryTimeoutSeconds ≤ 0.0) :
    Retrieval settings db kind st answer ⟨[.pool], .error timeout⟩
  | unconnected {f : Failure} (htime : ¬ settings.dbQueryTimeoutSeconds ≤ 0.0)
      (hconnect : db.connect = some f) :
    Retrieval settings db kind st answer ⟨[.pool], .error (told f)⟩
  | hung (htime : ¬ settings.dbQueryTimeoutSeconds ≤ 0.0) (hconnect : db.connect = none)
      (hhangs : kind ∈ db.hangs) :
    Retrieval settings db kind st answer ⟨[.pool, .query kind st], .error timeout⟩
  | failed {f : Failure} (htime : ¬ settings.dbQueryTimeoutSeconds ≤ 0.0)
      (hconnect : db.connect = none) (hhangs : kind ∉ db.hangs)
      (hfailed : db.queryFailure kind = some f) :
    Retrieval settings db kind st answer ⟨[.pool, .query kind st], .error (told f)⟩
  | answered (htime : ¬ settings.dbQueryTimeoutSeconds ≤ 0.0) (hconnect : db.connect = none)
      (hhangs : kind ∉ db.hangs) (hanswered : db.queryFailure kind = none) :
    Retrieval settings db kind st answer ⟨[.pool, .query kind st], answer⟩

def Connects (settings : Settings) (db : Database) : Prop :=
  ¬ settings.dbQueryTimeoutSeconds ≤ 0.0 ∧ db.connect = none

/-- A failure of the database is told as one to read, with that very failure as its cause; a timeout is
told as a timeout. -/
structure Reports (f : Failure) : Prop where
  database : f.isA .database = true → (told f).isA .reading = true ∧ (told f).cause? = some f
  timeout : f.isA .timeout = true → told f = f ∧ f.isA .reading = false

theorem reports (f : Failure) : Reports f where
  database := by
    intro h
    simp [told, isDatabaseFailure, h, Failure.cause?]
    rfl
  timeout := by
    intro h
    obtain ⟨hdatabase, hreading⟩ := FailureKind.isA_of_timeout h
    have htold : told f = f := by
      simp only [told, isDatabaseFailure, Failure.isA, hdatabase]
      rfl
    exact ⟨htold, hreading⟩

namespace Retrieval

variable {α β : Type} {settings : Settings} {db : Database} {kind : QueryKind} {st : Statement}

theorem of_query (settings : Settings) (db : Database) (kind : QueryKind) (st : Statement) :
    Retrieval settings db kind st (.ok (db.rows kind)) (query settings db kind st) := by
  unfold query
  by_cases htime : settings.dbQueryTimeoutSeconds ≤ 0.0
  · rw [if_pos htime]
    exact .overdue htime
  rw [if_neg htime]
  unfold fetch
  cases hconnect : db.connect with
  | some f => exact .unconnected htime hconnect
  | none =>
    by_cases hhangs : kind ∈ db.hangs
    · rw [if_pos (List.contains_iff_mem.mpr hhangs)]
      exact .hung htime hconnect hhangs
    · rw [if_neg (by simpa using hhangs)]
      cases hfailed : db.queryFailure kind with
      | some f => exact .failed htime hconnect hhangs hfailed
      | none => exact .answered htime hconnect hhangs hfailed

theorem bind {rows : α} {t : Traced α} (h : Retrieval settings db kind st (.ok rows) t)
    {next : α → Traced β} {answer : Except Failure β} (hnext : next rows = .ofExcept answer) :
    Retrieval settings db kind st answer (t >>= next) := by
  cases h with
  | overdue htime => exact .overdue htime
  | unconnected htime hconnect => exact .unconnected htime hconnect
  | hung htime hconnect hhangs => exact .hung htime hconnect hhangs
  | failed htime hconnect hhangs hfailed => exact .failed htime hconnect hhangs hfailed
  | answered htime hconnect hhangs hanswered =>
    rw [Traced.bind_of_ok rfl, hnext]
    exact .answered htime hconnect hhangs hanswered

variable {answer : Except Failure α} {t : Traced α}

theorem queries_of_connects (h : Retrieval settings db kind st answer t)
    (hconnects : Connects settings db) : queries t.events = [st] := by
  obtain ⟨htime, hconnect⟩ := hconnects
  cases h with
  | overdue hlate => exact absurd hlate htime
  | unconnected _ hfailed => simp [hconnect] at hfailed
  | hung | failed | answered => rfl

theorem eq_of_answers (h : Retrieval settings db kind st answer t)
    (hconnects : Connects settings db) (hhangs : kind ∉ db.hangs)
    (hanswers : db.queryFailure kind = none) : t = ⟨[.pool, .query kind st], answer⟩ := by
  obtain ⟨htime, hconnect⟩ := hconnects
  cases h with
  | overdue hlate => exact absurd hlate htime
  | unconnected _ hfailed => simp [hconnect] at hfailed
  | hung _ _ hhung => exact absurd hhung hhangs
  | failed _ _ _ hfailed => simp [hanswers] at hfailed
  | answered => rfl

theorem queries_of_not_connects (h : Retrieval settings db kind st answer t)
    (hconnects : ¬ Connects settings db) : queries t.events = [] := by
  cases h with
  | overdue | unconnected => rfl
  | hung htime hconnect | failed htime hconnect | answered htime hconnect =>
    exact absurd ⟨htime, hconnect⟩ hconnects

end Retrieval

section Pages

variable (settings : Settings) (db : Database) {page : PageMetadata} (f : Filters)

def Allowed (settings : Settings) (page : PageMetadata) : Prop :=
  1 ≤ page.limit ∧ page.limit ≤ settings.maxPageSize ∧ 0 ≤ page.offset

theorem retrievePage_of_not_allowed (h : ¬ Allowed settings page) :
    ∃ e, retrievePage settings db page f = ⟨[], .error e⟩ ∧ e.isA .query = true := by
  unfold retrievePage
  by_cases hlimit : page.limit < 1 ∨ settings.maxPageSize < page.limit
  · rw [if_pos hlimit]
    exact ⟨.pageLimit page.limit, rfl, rfl⟩
  · have hoffset : page.offset < 0 := by
      unfold Allowed at h
      omega
    rw [if_neg hlimit, if_pos hoffset]
    exact ⟨.pageOffset page.offset, rfl, rfl⟩

theorem retrieval_page (h : Allowed settings page) :
    Retrieval settings db .page (pageStatement page f)
      ((db.pageRows.mapM Record.ofRow).map fun records =>
        ⟨⟨records.length, page.offset, page.limit⟩, records⟩)
      (retrievePage settings db page f) := by
  obtain ⟨hlow, hhigh, hoffset⟩ := h
  unfold retrievePage
  rw [if_neg (by omega), if_neg (by omega)]
  apply (Retrieval.of_query settings db .page (pageStatement page f)).bind
  change (Traced.ofExcept (db.pageRows.mapM Record.ofRow) >>= _) = _
  cases db.pageRows.mapM Record.ofRow with
  | ok records => rfl
  | error e => rfl

theorem retrieval_summary :
    Retrieval settings db .summary (summaryStatement f) (Summary.ofRows db.summaryRows)
      (retrieveSummary settings db f) :=
  (Retrieval.of_query settings db .summary (summaryStatement f)).bind rfl

/-- A part that is not allowed is refused before the pool is asked. For any other the database is asked
once if it is reached in time, else not at all; its rows become the records of the page in their order. -/
theorem retrievePage_rows (page : PageMetadata) {cs : List DeploymentColumns}
    (hrows : List.Forall₂ Row.OfDeployment db.pageRows cs) :
    (¬ Allowed settings page → ∃ e, retrievePage settings db page f = ⟨[], .error e⟩ ∧
      e.isA .query = true) ∧
    (Allowed settings page →
      Retrieval settings db .page (pageStatement page f)
        (.ok ⟨⟨cs.length, page.offset, page.limit⟩, cs.map DeploymentColumns.record⟩)
        (retrievePage settings db page f) ∧
      (Connects settings db →
        queries (retrievePage settings db page f).events = [pageStatement page f]) ∧
      (¬ Connects settings db → queries (retrievePage settings db page f).events = [])) ∧
    ∀ e : Failure, Reports e := by
  refine ⟨retrievePage_of_not_allowed settings db f, ?_, reports⟩
  intro hallowed
  have hretrieval := retrieval_page settings db f hallowed
  refine ⟨?_, hretrieval.queries_of_connects, hretrieval.queries_of_not_connects⟩
  have hrecords : db.pageRows.mapM Record.ofRow = .ok (cs.map DeploymentColumns.record) :=
    mapM_of_forall₂ (fun _ _ hc => Record.ofRow_of_columns hc) hrows
  rw [hrecords] at hretrieval
  simpa [Except.map] using hretrieval

def bareRow : Row :=
  [("ip_address", .plain (.string "1.2.3.4")), ("city", .plain .null),
    ("services", .plain (.array [.null, .string "", .string "users", .string "things"])),
    ("latitude", .plain (.float (-0.0)))]

def bareColumns : DeploymentColumns where
  service := none
  services := some [none, some "", some "users", some "things"]
  ipAddress := some "1.2.3.4"
  macAddress := none
  deploymentId := none
  version := none
  country := none
  city := none
  latitude := some (-0.0)
  longitude := none
  time := none
  serviceTime := none

theorem ofDeployment_bareRow : Row.OfDeployment bareRow bareColumns where
  service := .inl rfl
  services := rfl
  ipAddress := rfl
  macAddress := .inl rfl
  deploymentId := .inl rfl
  version := .inl rfl
  country := .inl rfl
  city := .inr rfl
  latitude := rfl
  longitude := .inl rfl
  time := .inl rfl
  serviceTime := .inl rfl

theorem retrievePage_bareRow : Row.OfDeployment bareRow bareColumns ∧
    retrievePage {} { pageRows := [bareRow] } ⟨7, 3, 10⟩ .empty =
      ⟨[.pool, .query .page (pageStatement ⟨7, 3, 10⟩ .empty)],
        .ok ⟨⟨1, 3, 10⟩, [bareColumns.record]⟩⟩ ∧
    bareColumns.record.services = ["users", "things"] := by
  have hrows : List.Forall₂ Row.OfDeployment [bareRow] [bareColumns] :=
    .cons ofDeployment_bareRow .nil
  have hallowed : Allowed {} ⟨7, 3, 10⟩ := by
    unfold Allowed
    decide
  have hconnects : Connects {} { pageRows := [bareRow] } := by
    unfold Connects
    exact ⟨by decide +kernel, rfl⟩
  have hretrieval := ((retrievePage_rows {} { pageRows := [bareRow] } .empty ⟨7, 3, 10⟩ hrows).2.1
    hallowed).1
  refine ⟨ofDeployment_bareRow, ?_, by decide⟩
  exact hretrieval.eq_of_answers hconnects (by simp) rfl

/-- Without a connection nothing is asked, although the part is allowed. -/
theorem retrievePage_unconnected : Allowed {} ⟨0, 0, 10⟩ ∧
    (queries (retrievePage {} { connect := some (.outside .databaseOperation "gone") } ⟨0, 0, 10⟩
      .empty).events).length ≠ 1 := by
  unfold Allowed
  decide +kernel

end Pages

end Store

end Census
