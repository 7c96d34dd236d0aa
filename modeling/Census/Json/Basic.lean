import Census.Number.Shortest
import Census.Text.Quoted
/-! Values as messages and database rows carry them. -/
namespace Census

/-- The fields of an object keep the order in which they came. -/
inductive Json
  | null
  | bool (b : Bool)
  | number (n : Number)
  | string (s : String)
  | array (items : List Json)
  | object (fields : List (String × Json))

namespace Json

def int (n : Int) : Json := .number (.int n)

def float (x : Float) : Json := .number (.float x)

/-- The last of several fields with one name counts. -/
def field? (fields : List (String × Json)) (name : String) : Option Json :=
  (fields.reverse.find? (·.1 == name)).map (·.2)

def get? : Json → String → Option Json
  | .object fields, name => field? fields name
  | _, _ => none

/-- A value that stands for nothing: null, false, zero, an empty text or an empty collection. -/
def isEmpty : Json → Bool
  | .null => true
  | .bool b => !b
  | .number n => n.isZero
  | .string s => s == ""
  | .array items => items.isEmpty
  | .object fields => fields.isEmpty

mutual

def isFinite : Json → Bool
  | .number (.float x) => Number.isFinite x
  | .array items => areFinite items
  | .object fields => fieldsAreFinite fields
  | _ => true

def areFinite : List Json → Bool
  | [] => true
  | j :: js => isFinite j && areFinite js

def fieldsAreFinite : List (String × Json) → Bool
  | [] => true
  | (_, j) :: rest => isFinite j && fieldsAreFinite rest

end

mutual

def shownInside : Json → String
  | .null => "None"
  | .bool b => if b then "True" else "False"
  | .number n => n.text
  | .string s => Text.quoted s
  | .array items => "[" ++ ", ".intercalate (shownItems items) ++ "]"
  | .object fields => "\x7b" ++ ", ".intercalate (shownFields fields) ++ "\x7d"

def shownItems : List Json → List String
  | [] => []
  | j :: js => shownInside j :: shownItems js

def shownFields : List (String × Json) → List String
  | [] => []
  | (name, j) :: rest => (Text.quoted name ++ ": " ++ shownInside j) :: shownFields rest

end

def shown : Json → String
  | .string s => s
  | j => j.shownInside

end Json

end Census
