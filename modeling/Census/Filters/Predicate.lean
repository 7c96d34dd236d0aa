import Census.Filters.Basic
import Census.Record.Row
/-! The condition that filters put on rows. Values are never part of its text; they are bound to
named parameters. -/
namespace Census

namespace Filters

structure Clause where
  name : String
  column : String
  comparison : String
  value : Cell

def Clause.text (c : Clause) : String :=
  c.column ++ " " ++ c.comparison ++ " %(" ++ c.name ++ ")s"

def momentClause (name comparison : String) (m : Option Time.Moment) : List Clause :=
  m.toList.map fun m => ⟨name, "time", comparison, .moment m⟩

def textClause (name column : String) (s : String) : List Clause :=
  if s = "" then [] else [⟨name, column, "=", .plain (.string s)⟩]

def clauses (f : Filters) : List Clause :=
  momentClause "from" ">=" f.start ++ momentClause "to" "<=" f.stop ++
    textClause "country" "country" f.country ++ textClause "city" "city" f.city ++
    textClause "version" "mg_version" f.version ++ textClause "service" "service" f.service

def condition (f : Filters) : String :=
  match f.clauses with
  | [] => ""
  | cs => "WHERE " ++ " AND ".intercalate (cs.map Clause.text)

def parameters (f : Filters) : List (String × Cell) :=
  f.clauses.map fun c => (c.name, c.value)

end Filters

end Census
