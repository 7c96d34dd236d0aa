import Census.Text.Digit
/-! Hardware addresses: six bytes, the first of which marks addresses that were made up. -/
namespace Census.Network

def bytes : (count : Nat) → Nat → List Nat
  | 0, _ => []
  | count + 1, n => bytes count (n / 256) ++ [n % 256]

def joinWith (separator : Char) : List (List Char) → List Char
  | [] => []
  | [x] => x
  | x :: y :: rest => x ++ separator :: joinWith separator (y :: rest)

/-- The written form of a hardware address, empty for one with the multicast bit, which no
hardware has. -/
def hardwareAddress (node : Nat) : String :=
  if node.testBit 40 then ""
  else String.ofList (joinWith ':' ((bytes 6 node).map (Text.hex 2)))

end Census.Network
