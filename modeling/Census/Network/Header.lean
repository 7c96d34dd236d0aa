import Census.Failure.Basic
/-! Texts of headers, names and values alike: they hold ASCII only. -/
namespace Census.Network.Header

def isAscii (c : Char) : Bool :=
  c.toNat < 128

def foreignRun (cs : List Char) : Nat × List Char :=
  let before := cs.takeWhile isAscii
  (before.length, (cs.drop before.length).takeWhile fun c => !isAscii c)

def refusal? (text : String) : Option Failure :=
  let (place, run) := foreignRun text.toList
  let failure (what : String) : Failure :=
    .outside .textEncoding ("'ascii' codec can't encode " ++ what ++ ": ordinal not in range(128)")
  match run with
  | [] => none
  | [c] =>
    some (failure ("character '" ++ String.ofList (Text.numbered c) ++ "' in position " ++
      toString place))
  | _ =>
    some (failure ("characters in position " ++ toString place ++ "-" ++
      toString (place + run.length - 1)))

def check (name value : String) : Except Failure Unit :=
  match (refusal? name).or (refusal? value) with
  | some f => .error f
  | none => .ok ()

end Census.Network.Header
