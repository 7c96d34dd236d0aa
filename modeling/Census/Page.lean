import Census.Failure.Basic
import Census.Record.Basic
import Census.Settings.Basic
/-! Pages of records: which part is asked for, and the part itself. -/
namespace Census

structure PageMetadata where
  total : Int
  offset : Int
  limit : Int
deriving DecidableEq

namespace PageMetadata

def toFields (p : PageMetadata) : List (String × Json) :=
  [("total", .int p.total), ("offset", .int p.offset), ("limit", .int p.limit)]

def ofQuery (settings : Settings) (offset : Int) (limit : Option Int) :
    Except Failure PageMetadata :=
  let limit := limit.getD settings.defaultLimit
  if limit < 1 ∨ settings.maxLimitSize < limit then .error .queryLimit
  else if offset < 0 then .error .queryOffset
  else .ok ⟨0, offset, limit⟩

def check (fields : List (String × Json)) : Checked PageMetadata :=
  let whole (name : String) : Checked Int :=
    Json.checkWhole name ((Json.field? fields name).getD (.int 0))
  (((whole "total").map PageMetadata.mk).apply (whole "offset")).apply (whole "limit")

end PageMetadata

/-- A page; its total counts the records on it. -/
structure Page where
  metadata : PageMetadata
  records : List Record
deriving DecidableEq

def Page.toJson (p : Page) : Json :=
  .object (p.metadata.toFields ++ [("telemetry", .array (p.records.map Record.wire))])

end Census
