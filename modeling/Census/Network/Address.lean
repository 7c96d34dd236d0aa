import Census.Text.Digit
/-! Addresses of the internet protocol, both versions. The written form is unique: no leading
zeros, lower case, and the first longest run of zero groups left out. -/
namespace Census.Network

open Census.Text

/-- Four octets, or eight groups of sixteen bits with an optional zone. -/
inductive Address
  | v4 (octets : List Nat)
  | v6 (groups : List Nat) (zone : Option (List Char))
deriving DecidableEq

namespace Address

/-- An octet in decimal without leading zeros. -/
def octet? (cs : List Char) : Option Nat := do
  let ds ← cs.mapM asciiDigit?
  if ds.isEmpty ∨ 3 < ds.length ∨ (ds.head? = some 0 ∧ 1 < ds.length) then none
  let n := ofDigits ds
  if n < 256 then some n else none

def octets? (cs : List Char) : Option (List Nat) := do
  let parts := cs.splitOn '.'
  if parts.length ≠ 4 then none
  parts.mapM octet?

def group? (cs : List Char) : Option Nat := do
  if cs.isEmpty ∨ 4 < cs.length then none
  let ds ← cs.mapM hexDigit?
  return ds.foldl (fun n d => 16 * n + d) 0

/-- Groups between colons; a dotted last part stands for two groups. -/
def splitGroups? (cs : List Char) : Option (List (List Char)) :=
  let parts := cs.splitOn ':'
  match parts.getLast? with
  | none => none
  | some last =>
    if parts.length < 3 then none
    else if last.contains '.' then do
      let .cons a (.cons b (.cons c (.cons d _))) ← octets? last | none
      return parts.dropLast ++ [shortHex (256 * a + b), shortHex (256 * c + d)]
    else some parts

/-- The places of the empty parts, the two ends apart. -/
def gaps (parts : List (List Char)) : List Nat :=
  (List.range parts.length).filter fun i =>
    0 < i && i + 1 < parts.length && (parts[i]?.getD []).isEmpty

/-- The groups before and after a gap. An empty end part must belong to the gap. -/
def aroundGap? (parts : List (List Char)) (gap : Nat) :
    Option (List (List Char) × List (List Char)) :=
  let before := parts.take gap
  let after := parts.drop (gap + 1)
  let before? := if before.head? = some [] then (if before.length = 1 then some [] else none)
    else some before
  let after? := if after.getLast? = some [] then (if after.length = 1 then some [] else none)
    else some after
  match before?, after? with
  | some b, some a => if b.length + a.length < 8 then some (b, a) else none
  | _, _ => none

def groups? (cs : List Char) : Option (List Nat) := do
  let parts ← splitGroups? cs
  if 9 < parts.length then none
  match gaps parts with
  | [] => if parts.length = 8 then parts.mapM group? else none
  | [gap] =>
    let (before, after) ← aroundGap? parts gap
    let before ← before.mapM group?
    let after ← after.mapM group?
    return before ++ List.replicate (8 - (before.length + after.length)) 0 ++ after
  | _ => none

/-- A zone after the first percent sign; it must not be empty nor hold another one. -/
def splitZone? (cs : List Char) : Option (List Char × Option (List Char)) :=
  let body := cs.takeWhile (· ≠ '%')
  match cs.drop body.length with
  | [] => some (body, none)
  | _ :: zone => if zone.isEmpty ∨ zone.contains '%' then none else some (body, some zone)

def read? (cs : List Char) : Option Address :=
  if cs.contains '/' then none
  else match octets? cs with
    | some octets => some (v4 octets)
    | none => do
      let (body, zone) ← splitZone? cs
      return v6 (← groups? body) zone

def zeroRun (groups : List Nat) : Nat :=
  (groups.takeWhile (· == 0)).length

def longestRun (groups : List Nat) : Nat × Nat :=
  (List.range groups.length).foldl (fun best i =>
    let run := zeroRun (groups.drop i)
    if best.2 < run then (i, run) else best) (0, 0)

def joinGroups (groups : List Nat) : List Char :=
  match groups with
  | [] => []
  | [g] => shortHex g
  | g :: h :: rest => shortHex g ++ ':' :: joinGroups (h :: rest)

def writeGroups (groups : List Nat) : List Char :=
  let (start, length) := longestRun groups
  if length < 2 then joinGroups groups
  else joinGroups (groups.take start) ++ ':' :: ':' :: joinGroups (groups.drop (start + length))

def writeOctets : List Nat → List Char
  | [] => []
  | [n] => Nat.toDigits 10 n
  | n :: m :: rest => Nat.toDigits 10 n ++ '.' :: writeOctets (m :: rest)

def write : Address → List Char
  | v4 octets => writeOctets octets
  | v6 groups none => writeGroups groups
  | v6 groups (some zone) => writeGroups groups ++ '%' :: zone

def text (a : Address) : String :=
  String.ofList a.write

end Address

end Census.Network
