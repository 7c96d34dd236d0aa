import Census.Number.Numeral
import Census.Text.Blank
import Census.Text.Case
/-! Parts of files that requests ask for. A part is given by its first and last place, by its first
place alone, or by its length from the end; parts that meet are one. -/
namespace Census.Web

/-- A part from a place on up to, and without, another. -/
structure Range where
  start : Int
  stop : Int
deriving DecidableEq, Repr

inductive RangeRefusal
  | malformed
  | unit
  | none
  | backward
  | outside
deriving DecidableEq, Repr

namespace RangeRefusal

def status : RangeRefusal → Nat
  | outside => 416
  | _ => 400

def message : RangeRefusal → String
  | malformed => "Malformed range header."
  | unit => "Only support bytes range"
  | none => "Range header: range must be requested"
  | backward => "Range header: start must be less than end"
  | outside => ""

end RangeRefusal

namespace Range

open Text

def number? (cs : List Char) : Option Int :=
  (Number.readWhole (String.ofList cs)).toOption

/-- One part of a file of a size; what cannot be read is passed over. -/
def ofText? (size : Int) (cs : List Char) : Option Range := do
  let first := trimBy isBlank (cs.takeWhile (· ≠ '-'))
  let _ :: last := cs.dropWhile (· ≠ '-') | none
  let last := trimBy isBlank last
  if first.isEmpty then
    if last.isEmpty then none
    return ⟨size - (← number? last), size⟩
  let start ← number? first
  if last.isEmpty then return ⟨start, size⟩
  let last ← number? last
  return ⟨start, if last < size then last + 1 else size⟩

def join (r : Range) : List Range → List Range
  | [] => [r]
  | s :: rest => if r.start ≤ s.stop then ⟨s.start, max s.stop r.stop⟩ :: rest else r :: s :: rest

def comesBefore (r s : Range) : Bool :=
  r.start < s.start || (r.start == s.start && r.stop ≤ s.stop)

def merge (rs : List Range) : List Range :=
  ((rs.mergeSort comesBefore).foldl (fun done r => join r done) []).reverse

def read (size : Nat) (header : String) : Except RangeRefusal (List Range) :=
  let cs := header.toList
  let unit := cs.takeWhile (· ≠ '=')
  match cs.drop unit.length with
  | [] => .error .malformed
  | _ :: parts =>
    if lowerCase (trim (String.ofList unit)) ≠ "bytes" then .error .unit
    else
      let ranges := (parts.splitOn ',').filterMap (ofText? size)
      if ranges.isEmpty then .error .none
      else if ranges.any fun r => r.start < 0 || (size : Int) ≤ r.start then .error .outside
      else if ranges.any fun r => r.stop < r.start then .error .backward
      else .ok (merge ranges)

def cut (r : Range) (cs : List Char) : List Char :=
  (cs.take r.stop.toNat).drop r.start.toNat

end Range

end Census.Web
