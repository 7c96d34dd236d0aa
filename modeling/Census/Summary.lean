import Census.Record.Row
/-! Summaries of deployments by country. Countries keep the order of their rows; the cities,
services and versions of all rows are united, without empty ones. -/
namespace Census

/-- A value in a united set: a text, or what a database may hold in its place. -/
inductive Label
  | text (s : String)
  | number (n : Number)
  | truth
deriving DecidableEq

namespace Label

/-- None for what is empty; collections have no place in a set. -/
def ofJson? : Json → Except Failure (Option Label)
  | .null => .ok none
  | .bool b => .ok (if b then some truth else none)
  | .number n => .ok (if n.isZero then none else some (number n))
  | .string s => .ok (if s = "" then none else some (text s))
  | .array items => if items.isEmpty then .ok none else .error (.unhashable "list")
  | .object fields => if fields.isEmpty then .ok none else .error (.unhashable "dict")

def toJson : Label → Json
  | text s => .string s
  | number n => .number n
  | truth => .bool true

def size? : Label → Option Number
  | text _ => none
  | number n => some n
  | truth => some (.int 1)

/-- One element of a set: equal texts, or equal sizes. -/
def same : Label → Label → Bool
  | text a, text b => a == b
  | a, b =>
    match a.size?, b.size? with
    | some x, some y => x.agrees y
    | _, _ => false

def isText : Label → Bool
  | text _ => true
  | _ => false

def le : Label → Label → Bool
  | text a, text b => !(decide (b < a))
  | a, b =>
    match a.size?, b.size? with
    | some x, some y => !y.precedes x
    | _, _ => true

def typeName : Label → String
  | text _ => "str"
  | number (.int _) => "int"
  | number (.float _) => "float"
  | truth => "bool"

/-- A set in order. Texts and sizes have no common order. -/
def sort (labels : List Label) : Except Failure (List Label) :=
  match labels.find? isText, labels.find? (!·.isText) with
  | some a, some b => .error (.mixedOrder a.typeName b.typeName)
  | _, _ => .ok (labels.mergeSort le)

def insert (labels : List Label) (l : Label) : List Label :=
  if labels.any l.same then labels else labels ++ [l]

def union (labels more : List Label) : List Label :=
  more.foldl insert labels

end Label

structure SummaryRow where
  country : String
  count : Int
  cities : List Label
  services : List Label
  versions : List Label
deriving DecidableEq

namespace SummaryRow

/-- A count: a number without its fraction, or a whole number in a text. -/
def readCount (j : Json) : Except Failure Int :=
  if j.isEmpty then .ok 0
  else match j with
    | .bool b => .ok (if b then 1 else 0)
    | .number (.int n) => .ok n
    | .number (.float x) =>
      match Number.truncate? x with
      | some n => .ok n
      | none =>
        if x == x then .error (.outside .overflow "cannot convert float infinity to integer")
        else .error (.outside .value "cannot convert float NaN to integer")
    | .string s =>
      match Number.readWhole s with
      | .ok n => .ok n
      | .error .malformed => .error (.wholeNumber (Text.quoted s))
      | .error (.tooLong digits) => .error (.wholeLength digits)
    | j => .error (.notConvertible (Cell.typeName j)
        "int() argument must be a string, a bytes-like object or a real number")

def readCountry (j : Json) : Except Failure String :=
  if j.isEmpty then .ok ""
  else match j with
    | .string s => .ok s
    | _ => .error (.fields [⟨.text, [.name "country"]⟩])

def readLabels (j : Json) : Except Failure (List Label) :=
  if j.isEmpty then .ok []
  else do
    let items ← Cell.items j
    return (← items.mapM Label.ofJson?).filterMap id

def column (row : Row) (name : String) : Json :=
  match row.lookup name with
  | some (.plain j) => j
  | _ => .null

def ofRow (row : Row) : Except Failure SummaryRow := do
  let count ← readCount (column row "number_of_deployments")
  let country ← readCountry (column row "country")
  let cities ← readLabels (column row "cities")
  let services ← readLabels (column row "services")
  let versions ← readLabels (column row "versions")
  return ⟨country, count, cities, services, versions⟩

end SummaryRow

structure CountryCount where
  country : String
  count : Int
deriving DecidableEq

structure Summary where
  countries : List CountryCount
  cities : List Label
  services : List Label
  versions : List Label
  total : Int
deriving DecidableEq

namespace Summary

def empty : Summary := ⟨[], [], [], [], 0⟩

def add (s : Summary) (r : SummaryRow) : Summary where
  countries := s.countries ++ [⟨r.country, r.count⟩]
  cities := Label.union s.cities r.cities
  services := Label.union s.services r.services
  versions := Label.union s.versions r.versions
  total := s.total + r.count

def aggregate (rows : List SummaryRow) : Summary :=
  rows.foldl add empty

def ofRows (rows : List Row) : Except Failure Summary :=
  return aggregate (← rows.mapM SummaryRow.ofRow)

def countriesJson (s : Summary) : Json :=
  .array (s.countries.map fun c =>
    .object [("country", .string c.country), ("number_of_deployments", .int c.count)])

def labelsJson (labels : List Label) : Except Failure Json :=
  (Label.sort labels).map fun ls => .array (ls.map Label.toJson)

def toJson (s : Summary) : Except Failure Json := do
  return .object [
    ("countries", s.countriesJson),
    ("cities", ← labelsJson s.cities),
    ("services", ← labelsJson s.services),
    ("versions", ← labelsJson s.versions),
    ("total_deployments", .int s.total)]

end Summary

end Census
