import Census.Network.Name.Direction
import Census.Network.Name.Letter
import Census.Network.Name.Place
import Census.Network.Name.Punycode
/-! Names of hosts in all scripts, and their form in ASCII. A name is a list of labels between
points; a label that is not in ASCII is encoded, with a mark before it. -/
namespace Census.Network.Name

def isPoint (c : Char) : Bool :=
  [0x2E, 0x3002, 0xFF0E, 0xFF61].contains c.toNat

def hasSoundHyphens (cs : List Char) : Bool :=
  cs.head? != some '-' && cs.getLast? != some '-' && (cs.drop 2).take 2 != ['-', '-']

/-- Whether every character may stand where it does; `before` holds what came before, backwards. -/
def isSpelledWell (before : List Char) : List Char → Bool
  | [] => true
  | c :: cs => (isLetter c || suitsPlace before c cs) && isSpelledWell (c :: before) cs

def nameLimit : Nat := 254

def labelLimit : Nat := 63

def isLabel (cs : List Char) : Bool :=
  !cs.isEmpty && cs.length ≤ nameLimit && isComposed none cs && hasSoundHyphens cs &&
    !cs.head?.any isMark && isSpelledWell [] cs && keepsDirection cs

def encodedStart : List Char := "xn--".toList

def decoded? (cs : List Char) : Option (List Char) :=
  let body := cs.drop encodedStart.length
  if body.isEmpty || body.getLast? == some '-' then none else Punycode.decode? body

def labelToAscii? (cs : List Char) : Option (List Char) :=
  let ascii? : Option (List Char) :=
    if cs.all Punycode.isAscii then
      let meant := if encodedStart.isPrefixOf cs then decoded? cs else some cs
      if meant.any isLabel then some cs else none
    else if isLabel cs then some (encodedStart ++ Punycode.encode cs)
    else none
  ascii?.filter fun label => label.length ≤ labelLimit

def toAscii? (cs : List Char) : Option (List Char) := do
  if nameLimit < cs.length then none
  let labels := cs.splitOnP isPoint
  let ended := labels.getLast? == some []
  let labels := if ended then labels.dropLast else labels
  if labels.isEmpty then none
  let labels ← labels.mapM labelToAscii?
  let name := ['.'].intercalate (if ended then labels ++ [[]] else labels)
  if name.length ≤ (if ended then nameLimit else nameLimit - 1) then some name else none

end Census.Network.Name
