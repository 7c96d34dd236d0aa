import Census.Filters.Window
import Census.Number.Numeral
import Census.Page
import Census.Time.Reader
import Census.Web.Request
/-! The queries of requests. The last of several values with one name counts, and unknown names are
passed over. A value that cannot be read is told apart from one that is refused. -/
namespace Census.Web

open Time

abbrev QueryFields := List (String × String)

namespace QueryFields

def value? (q : QueryFields) (name : String) : Option String :=
  List.lookup name q.reverse

def text (q : QueryFields) (name : String) : String :=
  (q.value? name).getD ""

def moment? (q : QueryFields) (name : String) : Option (Option Moment) :=
  match q.value? name with
  | none => some none
  | some s => (Moment.read? s).map some

def whole? (q : QueryFields) (name : String) : Option (Option Int) :=
  match q.value? name with
  | none => some none
  | some s => (Number.readParameter s).toOption.map some

def selection? (q : QueryFields) : Option Selection := do
  let start ← q.moment? "from"
  let stop ← q.moment? "to"
  return ⟨start, stop, q.text "country", q.text "city", q.text "version", q.text "service"⟩

def part? (q : QueryFields) : Option (Int × Option Int) := do
  let offset ← q.whole? "offset"
  let limit ← q.whole? "limit"
  return (offset.getD 0, limit)

def filters (settings : Settings) (now : Moment) (q : QueryFields) :
    Except Failure (Option Filters) :=
  match q.selection? with
  | none => .ok none
  | some s => (Filters.ofSelection .double settings now s).map some

def metadata (settings : Settings) (q : QueryFields) : Except Failure (Option PageMetadata) :=
  match q.part? with
  | none => .ok none
  | some (offset, limit) => (PageMetadata.ofQuery settings offset limit).map some

/-- The part of the records and the filters. A refused part is told first; filters are looked at
even if the part cannot be read. -/
def page (settings : Settings) (now : Moment) (q : QueryFields) :
    Except Failure (Option (PageMetadata × Filters)) := do
  let part ← q.metadata settings
  let filters ← q.filters settings now
  match part, filters with
  | some p, some f => return some (p, f)
  | _, _ => return none

end QueryFields

end Census.Web
