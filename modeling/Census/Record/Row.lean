import Census.Record.Basic
import Census.Time.Reader
/-! Rows of the database. A column holds a plain value or a moment; columns that are missing, null
or empty read as the empty text, zero or no moment. -/
namespace Census

open Time

inductive Cell
  | plain (j : Json)
  | moment (m : Moment)

abbrev Row := List (String × Cell)

namespace Cell

def typeName : Json → String
  | .null => "NoneType"
  | .bool _ => "bool"
  | .number (.int _) => "int"
  | .number (.float _) => "float"
  | .string _ => "str"
  | .array _ => "list"
  | .object _ => "dict"

def isEmpty : Cell → Bool
  | plain j => j.isEmpty
  | moment _ => false

/-- The values that a collection yields one by one: a text yields its characters, an object its
names. -/
def items : Json → Except Failure (List Json)
  | .array items => .ok items
  | .string s => .ok (s.toList.map fun c => .string (String.singleton c))
  | .object fields => .ok (fields.map fun (name, _) => .string name)
  | j => .error (.notIterable (typeName j))

def checkText (name : String) (c : Option Cell) : Checked String :=
  match c with
  | none => .ok ""
  | some c =>
    if c.isEmpty then .ok ""
    else match c with
      | plain j => Json.checkText name j
      | moment _ => Checked.fault .text name

def checkCoordinate (name : String) (c : Option Cell) : Checked Float :=
  match c with
  | none => .ok 0.0
  | some c =>
    if c.isEmpty then .ok 0.0
    else match c with
      | plain j => Json.checkDecimal name j
      | moment _ => Checked.fault .float name

def checkMoment (name : String) : Option Cell → Checked (Option Moment)
  | none => .ok none
  | some (plain .null) => .ok none
  | some (moment m) => .ok (some m)
  | some (plain j) =>
    match Moment.ofJson? j with
    | some m => .ok (some m)
    | none => Checked.fault .moment name

def listed : Option Cell → Except Failure (List Json)
  | none => .ok []
  | some c =>
    if c.isEmpty then .ok []
    else match c with
      | plain j => (items j).map fun js => js.filter fun j => !j.isEmpty
      | moment _ => .error (.notIterable "datetime.datetime")

end Cell

namespace Record

def ofRow (row : Row) : Except Failure Record := do
  let column (name : String) : Option Cell := row.lookup name
  let text (field name : String) : Checked String := Cell.checkText field (column name)
  let services ← Cell.listed (column "services")
  let checked :=
    ((((((((((((text "service" "service").map Record.mk).apply
      (checkItems "services" 0 services)).apply
      (text "ip_address" "ip_address")).apply
      (text "mac_address" "mac_address")).apply
      (text "deployment_id" "deployment_id")).apply
      (text "version" "mg_version")).apply
      (text "country" "country")).apply
      (text "city" "city")).apply
      (Cell.checkCoordinate "latitude" (column "latitude"))).apply
      (Cell.checkCoordinate "longitude" (column "longitude"))).apply
      (Cell.checkMoment "last_seen" (column "time"))).apply
      (Cell.checkMoment "service_time" (column "service_time"))
  checked.toExcept .fields

end Record

end Census
