import Census.Record.Basic
/-! Filters of queries: a window of time and texts that must match. An empty text constrains
nothing. -/
namespace Census

open Time

structure Filters where
  start : Option Moment
  stop : Option Moment
  country : String
  city : String
  version : String
  service : String
deriving DecidableEq

namespace Filters

def empty : Filters := ⟨none, none, "", "", "", ""⟩

def momentsAgree : Option Moment → Option Moment → Bool
  | none, none => true
  | some a, some b => a.agrees b
  | _, _ => false

def agrees (a b : Filters) : Bool :=
  momentsAgree a.start b.start && momentsAgree a.stop b.stop && a.country == b.country &&
    a.city == b.city && a.version == b.version && a.service == b.service

def check (start stop : Option Moment) (fields : List (String × Json)) : Checked Filters :=
  let text (name : String) : Checked String :=
    Json.checkText name ((Json.field? fields name).getD (.string ""))
  ((((text "country").map (Filters.mk start stop)).apply (text "city")).apply
    (text "version")).apply (text "service")

end Filters

end Census
