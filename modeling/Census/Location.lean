import Census.Failure.Basic
import Census.Network.Address
import Census.Number.Numeral
import Census.Json.Basic
import Census.Record.Row
import Census.Text.Blank
/-! Places of addresses, from a database that is asked by the written form of the address. The
database may answer in many ways; a place has no padding in its texts and never the database's
placeholder or one of its error texts for a country. -/
namespace Census

structure LocationEntry where
  country : Json
  city : Json
  latitude : Json
  longitude : Json

inductive LocationAnswer
  | entry (e : LocationEntry)
  | absent
  | failed (f : Failure)

abbrev LocationDatabase := String → LocationAnswer

structure Location where
  country : String
  city : String
  latitude : Float
  longitude : Float
deriving DecidableEq

namespace Location

def placeholder : String := "-"

/-- Texts that the database gives in the place of a country when it cannot answer. -/
def errorTexts : List String :=
  ["INVALID IP ADDRESS", "MISSING FILE", "IPV6 ADDRESS MISSING IN IPV4 BIN",
   "IPV4 ADDRESS MISSING IN IPV6 BIN"]

def clean : Json → String
  | .null => ""
  | j =>
    let text := Text.trim j.shown
    if text = placeholder then "" else text

def coordinate (j : Json) : Except Failure Float :=
  if j.isEmpty then .ok 0.0
  else match j with
    | .number (.float x) => .ok x
    | .number (.int n) =>
      match Number.ofInt? n with
      | some x => .ok x
      | none => .error .doubleRange
    | .bool b => .ok (if b then 1.0 else 0.0)
    | .string s =>
      match Number.readDecimal? s with
      | some x => .ok x
      | none => .error (.notDecimal (Text.quoted s))
    | j => .error (.notConvertible (Cell.typeName j)
        "float() argument must be a string or a real number")

def isDatabaseFailure (f : Failure) : Bool :=
  f.isA .system || f.isA .value

/-- A failure to read coordinates as values; others pass as they are. -/
def coordinateFailure (address : String) (f : Failure) : Failure :=
  if f.isA .type || f.isA .value then .locationCoordinates address f else f

def ofEntry (address : String) (e : LocationEntry) : Except Failure Location := do
  let country := clean e.country
  if errorTexts.contains country then throw (.locationRefused country)
  let latitude ← (coordinate e.latitude).mapError (coordinateFailure address)
  let longitude ← (coordinate e.longitude).mapError (coordinateFailure address)
  return ⟨country, clean e.city, latitude, longitude⟩

def find (db : LocationDatabase) (ip : Option String) : Except Failure Location :=
  match Network.Address.read? (Text.trimBy Text.isBlank (ip.getD "").toList) with
  | none => .error (.locationAddress ip)
  | some address =>
    match db address.text with
    | .failed f => .error (if isDatabaseFailure f then .locationLookup f else f)
    | .absent => .error (.locationAbsent address.text)
    | .entry e => ofEntry address.text e

def openDatabase (path : String) (refusal : Option Failure) (db : LocationDatabase) :
    Except Failure LocationDatabase :=
  match refusal with
  | none => .ok db
  | some f => .error (if isDatabaseFailure f then .locationDatabase path f else f)

end Location

end Census
