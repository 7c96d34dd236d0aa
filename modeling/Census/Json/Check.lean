import Census.Failure.Fault
import Census.Json.Basic
import Census.Number.Numeral
import Census.Text.Case
/-! Fields of the plain types. A number may be given as a text, a truth value as a number or a word,
and the other way round; a text must be a text. -/
namespace Census.Json

def checkText (name : String) : Json → Checked String
  | .string s => .ok s
  | _ => Checked.fault .text name

/-- A decimal: a number, a truth value, or a decimal in a text. -/
def checkDecimal (name : String) : Json → Checked Float
  | .number (.float x) => .ok x
  | .number (.int n) =>
    match Number.ofInt? n with
    | some x => .ok x
    | none => Checked.fault .float name
  | .bool b => .ok (if b then 1.0 else 0.0)
  | .string s =>
    match Number.readSetting? s with
    | some x => .ok x
    | none => Checked.fault .floatText name
  | _ => Checked.fault .float name

def wholeOfDouble (name : String) (x : Float) : Checked Int :=
  match Number.value? x with
  | none => Checked.fault .notFinite name
  | some v =>
    if v.den ≠ 1 then Checked.fault .wholeFraction name
    else if -Number.wordBound < v.num ∧ v.num < Number.wordBound then .ok v.num
    else Checked.fault .wholeTooLong name

/-- A whole number: a number without fraction, a truth value, or a whole number in a text. -/
def checkWhole (name : String) : Json → Checked Int
  | .number (.int n) => .ok n
  | .bool b => .ok (if b then 1 else 0)
  | .number (.float x) => wholeOfDouble name x
  | .string s =>
    match Number.readParameter s with
    | .ok n => .ok n
    | .error .malformed => Checked.fault .wholeText name
    | .error (.tooLong _) => Checked.fault .wholeTooLong name
  | _ => Checked.fault .whole name

def truth? (s : String) : Option Bool :=
  let s := Text.lowerCase s
  if ["0", "off", "f", "false", "n", "no"].contains s then some false
  else if ["1", "on", "t", "true", "y", "yes"].contains s then some true
  else none

def truthOfWhole (name : String) (n : Int) : Checked Bool :=
  if n = 0 then .ok false else if n = 1 then .ok true else Checked.fault .truth name

def checkTruth (name : String) : Json → Checked Bool
  | .bool b => .ok b
  | .number (.int n) =>
    if Number.fitsWord n then truthOfWhole name n else Checked.fault .truthType name
  | .number (.float x) =>
    match wholeOfDouble name x with
    | .ok n => truthOfWhole name n
    | .error _ => Checked.fault .truthType name
  | .string s =>
    match truth? s with
    | some b => .ok b
    | none => Checked.fault .truth name
  | _ => Checked.fault .truthType name

end Census.Json
