import Census.Store.Trace
import Census.Summary
import Census.Text.Within
/-! The store of telemetry records in a database. Failures of the database are told as failures to
read or to save, with the database's own failure as their cause; all others pass as they are. -/
namespace Census.Store

structure Database where
  pageRows : List Row := []
  summaryRows : List Row := []
  connect : Option Failure := none
  page : Option Failure := none
  summary : Option Failure := none
  insert : Option Failure := none
  commit : Option Failure := none
  rollback : Option Failure := none
  /-- Failures of schema statements by a part of their text. -/
  schema : List (String × Failure) := []
  hangs : List QueryKind := []

namespace Database

def rows (db : Database) : QueryKind → List Row
  | .summary => db.summaryRows
  | .page => db.pageRows

def queryFailure (db : Database) : QueryKind → Option Failure
  | .summary => db.summary
  | .page => db.page

def schemaFailure (db : Database) (text : String) : Option Failure :=
  (db.schema.find? fun (part, _) => Text.occursIn part.toList text.toList).map (·.2)

end Database

def timeout : Failure := .outside .timeout ""

def isDatabaseFailure (f : Failure) : Bool := f.isA .database

def execute (db : Database) (text : String) : Traced Unit := do
  Traced.emit (.schema text)
  Traced.attempt (db.schemaFailure text)

/-- Applies a policy; a database that refuses it is left as it is. -/
def applyPolicy (db : Database) (text : String) : Traced Unit :=
  (do Traced.emit .begin; execute db text : Traced Unit).orElse fun f =>
    if isDatabaseFailure f then Traced.pure () else Traced.fail f

def executeAll (db : Database) : List String → Traced Unit
  | [] => Traced.pure ()
  | text :: rest => do execute db text; executeAll db rest

def applyAll (db : Database) : List String → Traced Unit
  | [] => Traced.pure ()
  | text :: rest => do applyPolicy db text; applyAll db rest

def createSchema (db : Database) : Traced Unit := do
  Traced.emit .pool
  Traced.attempt db.connect
  executeAll db schema
  applyAll db policies

def fetch (db : Database) (kind : QueryKind) (statement : Statement) : Traced (List Row) := do
  Traced.attempt db.connect
  Traced.emit (.query kind statement)
  if db.hangs.contains kind then Traced.fail timeout
  Traced.attempt (db.queryFailure kind)
  return db.rows kind

/-- Queries the database within the time of the settings. A time that is not positive is over
before the query begins. -/
def query (settings : Settings) (db : Database) (kind : QueryKind) (statement : Statement) :
    Traced (List Row) := do
  Traced.emit .pool
  if settings.dbQueryTimeoutSeconds ≤ 0.0 then Traced.fail timeout
  (fetch db kind statement).orElse fun f =>
    Traced.fail (if isDatabaseFailure f then .unreadable f else f)

/-- One page of records. Its bounds are checked before the database is touched. -/
def retrievePage (settings : Settings) (db : Database) (page : PageMetadata) (f : Filters) :
    Traced Page := do
  if page.limit < 1 ∨ settings.maxPageSize < page.limit then Traced.fail (.pageLimit page.limit)
  if page.offset < 0 then Traced.fail (.pageOffset page.offset)
  let rows ← query settings db .page (pageStatement page f)
  let records ← Traced.ofExcept (rows.mapM Record.ofRow)
  return ⟨⟨records.length, page.offset, page.limit⟩, records⟩

def retrieveSummary (settings : Settings) (db : Database) (f : Filters) : Traced Summary := do
  let rows ← query settings db .summary (summaryStatement f)
  Traced.ofExcept (Summary.ofRows rows)

def isInvalidEvent (f : Failure) : Bool :=
  f.isA .data || f.isA .textEncoding

def saveFailure (f : Failure) : Failure :=
  if isInvalidEvent f then .unsavedEvent f else .unsaved f

/-- Undoes a failed insertion; a failure of that is told together with the first. -/
def undo (db : Database) (f : Failure) : Traced Unit := do
  Traced.emit .rollback
  match db.rollback with
  | none => Traced.fail f
  | some r => Traced.fail (if isDatabaseFailure r then .rollback f r else r)

def insert (db : Database) (statement : Statement) : Traced Unit := do
  (do Traced.emit (.insert statement); Traced.attempt db.insert : Traced Unit).orElse fun f =>
    if isDatabaseFailure f || f.isA .textEncoding then undo db (saveFailure f) else Traced.fail f
  Traced.emit .commit
  match db.commit with
  | none => Traced.pure ()
  | some f => Traced.fail (if isDatabaseFailure f then .unsaved f else f)

def save (db : Database) (now : Time.Moment) (r : Record) : Traced Unit := do
  if r.ipAddress = "" ∧ r.deploymentId = "" then Traced.fail .unidentified
  Traced.emit .pool
  match db.connect with
  | none => insert db (insertStatement now r)
  | some f => Traced.fail (if isDatabaseFailure f then .unsaved f else f)

end Census.Store
