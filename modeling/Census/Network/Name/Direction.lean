import Census.Network.Name.Mark
/-! Direction of writing in names of hosts. A name with letters of scripts that run from right to
left keeps to one direction, so that no reader can take its parts for another's. -/
namespace Census.Network.Name

open Census.Text

/-- Letters of scripts that run from right to left, among the characters of names. -/
def rightRanges : Array (Nat × Nat) :=
  #[(0x5D0, 0x5F4), (0x620, 0x64A), (0x66E, 0x66F), (0x671, 0x6D5), (0x6E5, 0x6E6), (0x6EE, 0x6EF),
   (0x6FA, 0x710), (0x712, 0x72F), (0x74D, 0x7A5), (0x7B1, 0x7EA), (0x7F4, 0x7F5), (0x800, 0x815),
   (0x81A, 0x81A), (0x824, 0x824), (0x828, 0x828), (0x840, 0x858), (0x860, 0x88E), (0x8A0, 0x8C9),
   (0xFE73, 0xFE73), (0x10800, 0x10A00), (0x10A10, 0x10A35), (0x10A60, 0x10AE4), (0x10B00, 0x10D23),
   (0x10E80, 0x10EA9), (0x10EB0, 0x10F45), (0x10F70, 0x10F81), (0x10FB0, 0x10FF6),
   (0x1E800, 0x1E8C4), (0x1E922, 0x1E943), (0x1E94B, 0x1E959)]

def arabicDigitRanges : Array (Nat × Nat) :=
  #[(0x660, 0x669), (0x10D30, 0x10D39)]

def digitRanges : Array (Nat × Nat) :=
  #[(0x30, 0x39), (0x6F0, 0x6F9)]

def neutralRanges : Array (Nat × Nat) :=
  #[(0x2D, 0x2D), (0xB7, 0xB7), (0x2B9, 0x2BA), (0x2C6, 0x2CF), (0x2EC, 0x2EC), (0x375, 0x375),
   (0x200C, 0x200D), (0x2E2F, 0x2E2F), (0x30FB, 0x30FB), (0xA67F, 0xA67F), (0xA717, 0xA71F),
   (0xA788, 0xA788)]

inductive Direction
  | left
  | right
  | digit
  | arabicDigit
  | mark
  | neutral
deriving DecidableEq, Repr

def directionOf (c : Char) : Direction :=
  if isNonspacing c then .mark
  else if inRanges rightRanges c then .right
  else if inRanges arabicDigitRanges c then .arabicDigit
  else if inRanges digitRanges c then .digit
  else if inRanges neutralRanges c then .neutral
  else .left

/-- A name from right to left: no letter of the other direction, one kind of digits, and a letter or
digit at its end, marks apart. -/
def runsRight (ds : List Direction) : Bool :=
  !ds.contains .left && !(ds.contains .digit && ds.contains .arabicDigit) &&
    match ds.reverse.dropWhile (· == .mark) with
    | d :: _ => d != .neutral
    | [] => false

/-- A name from left to right: none but letters of that direction and digits at its end. -/
def runsLeft (ds : List Direction) : Bool :=
  !ds.contains .right && !ds.contains .arabicDigit &&
    match ds.reverse.dropWhile (· == .mark) with
    | d :: _ => d == .left || d == .digit
    | [] => false

/-- Whether a name keeps to the direction of its first letter; one without letters or digits from
right to left may hold anything. -/
def keepsDirection (cs : List Char) : Bool :=
  let ds := cs.map directionOf
  if !ds.contains .right && !ds.contains .arabicDigit then true
  else match ds.head? with
    | some .right => runsRight ds
    | some .left => runsLeft ds
    | _ => false

end Census.Network.Name
