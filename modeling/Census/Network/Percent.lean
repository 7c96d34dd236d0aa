import Census.Text.Utf8
/-! Percent-encoded texts and the fields of forms. Bytes that are no UTF-8 read as U+FFFD, and a
percent sign without two hexadecimal digits stands for itself. -/
namespace Census.Network

open Census.Text

def percentByte : Nat := 0x25

def byteDigit? (b : UInt8) : Option Nat :=
  hexDigit? (Char.ofNat b.toNat)

def decodeBytes : List UInt8 → List UInt8
  | [] => []
  | [b] => [b]
  | [b, c] => [b, c]
  | b :: c :: d :: rest =>
    if b.toNat = percentByte then
      match byteDigit? c, byteDigit? d with
      | some high, some low => (16 * high + low).toUInt8 :: decodeBytes rest
      | _, _ => b :: decodeBytes (c :: d :: rest)
    else b :: decodeBytes (c :: d :: rest)

def percentDecode (cs : List Char) : List Char :=
  Utf8.decodeLossy (decodeBytes (Utf8.encode cs))

/-- A name or value of a form, in which a plus sign is a space. -/
def formDecode (cs : List Char) : String :=
  String.ofList (percentDecode (cs.map fun c => if c = '+' then ' ' else c))

/-- A text before and after the first of a character; the second part is none without it. -/
def cut (separator : Char) (cs : List Char) : List Char × Option (List Char) :=
  let before := cs.takeWhile (· ≠ separator)
  match cs.drop before.length with
  | [] => (before, none)
  | _ :: after => (before, some after)

/-- The named values of a form, in order. Empty pairs are dropped; empty values stay. -/
def formFields (cs : List Char) : List (String × String) :=
  (cs.splitOn '&').filterMap fun pair =>
    if pair.isEmpty then none
    else
      let (name, value) := cut '=' pair
      some (formDecode name, formDecode (value.getD []))

def escapeBytes (c : Char) : List Char :=
  (Utf8.encode [c]).flatMap fun b => '%' :: (hex 2 b.toNat).map Char.toUpper

def percentEncode (safe : Char → Bool) (cs : List Char) : List Char :=
  cs.flatMap fun c => if safe c then [c] else escapeBytes c

end Census.Network
