import Census.Json.Basic
import Census.Number.Numeral
import Census.Text.Utf8
/-! Reading written values. The grammar is strict, with three exceptions: `NaN`, `Infinity` and
`-Infinity` are numbers. Collections may be nested up to a limit. -/
namespace Census.Json

open Census.Text

def isSpace (c : Char) : Bool :=
  c == ' ' || c == '\t' || c == '\n' || c == '\r'

def skipSpace (cs : List Char) : List Char :=
  cs.dropWhile isSpace

def unit? (a b c d : Char) : Option Nat := do
  return ((← hexDigit? a) * 16 + (← hexDigit? b)) * 256 + ((← hexDigit? c) * 16 + (← hexDigit? d))

def simpleEscape? (c : Char) : Option Char :=
  if c = doubleQuote ∨ c = '\\' ∨ c = '/' then some c
  else if c = 'b' then some (Char.ofNat 8)
  else if c = 'f' then some (Char.ofNat 12)
  else if c = 'n' then some '\n'
  else if c = 'r' then some '\r'
  else if c = 't' then some '\t'
  else none

/-- A text up to its closing quote. A surrogate is read only as the first half of a pair. -/
def readText : List Char → Option (List Char × List Char)
  | [] => none
  | '\\' :: 'u' :: a :: b :: c :: d :: rest =>
    match unit? a b c d with
    | none => none
    | some high =>
      if high < 0xD800 ∨ 0xE000 ≤ high then
        (readText rest).map fun (cs, rest) => (Char.ofNat high :: cs, rest)
      else if 0xDC00 ≤ high then none
      else match rest with
        | '\\' :: 'u' :: a :: b :: c :: d :: rest =>
          match unit? a b c d with
          | none => none
          | some low =>
            if 0xDC00 ≤ low ∧ low < 0xE000 then
              (readText rest).map fun (cs, rest) =>
                (Char.ofNat (0x10000 + (high - 0xD800) * 0x400 + (low - 0xDC00)) :: cs, rest)
            else none
        | _ => none
  | '\\' :: c :: rest =>
    match simpleEscape? c with
    | none => none
    | some e => (readText rest).map fun (cs, rest) => (e :: cs, rest)
  | c :: rest =>
    if c = doubleQuote then some ([], rest)
    else if c = '\\' ∨ c.toNat < 0x20 then none
    else (readText rest).map fun (cs, rest) => (c :: cs, rest)

def isDigit (c : Char) : Bool :=
  '0' ≤ c && c ≤ '9'

def startsExponent (c : Char) : Bool :=
  c == 'e' || c == 'E'

/-- A number without its sign: no leading zeros, at least one digit on each side of a point, and no
more than the limit of characters before it. -/
def readUnsigned (negative : Bool) (cs : List Char) : Option (Number × List Char) :=
  let whole := cs.takeWhile isDigit
  let rest := cs.drop whole.length
  let length := whole.length + if negative then 1 else 0
  if whole.isEmpty || (whole.head? == some '0' && 1 < whole.length) ||
    Number.digitLimit < length then none
  else
    let (fraction, rest', pointed) :=
      match rest with
      | '.' :: tail => (tail.takeWhile isDigit, tail.dropWhile isDigit, true)
      | _ => ([], rest, false)
    if pointed && fraction.isEmpty then none
    else
      let digits := Text.ofDigits ((whole ++ fraction).filterMap asciiDigit?)
      match rest' with
      | c :: tail =>
        if startsExponent c then
          let (down, tail) := Number.splitSign tail
          let exponent := tail.takeWhile isDigit
          if exponent.isEmpty then none
          else
            let n : Int := Text.ofDigits (exponent.filterMap asciiDigit?)
            some (.float (Number.ofDecimal negative digits
              ((if down then -n else n) - fraction.length)), tail.drop exponent.length)
        else some (finish pointed fraction.length digits, rest')
      | [] => some (finish pointed fraction.length digits, rest')
where
  finish (pointed : Bool) (places digits : Nat) : Number :=
    if pointed then .float (Number.ofDecimal negative digits (-places))
    else .int (if negative then -digits else digits)

def readLiteral (cs : List Char) : Option (Json × List Char) :=
  let words : List (String × Json) :=
    [("null", .null), ("true", .bool true), ("false", .bool false), ("NaN", .float (0.0 / 0.0)),
      ("Infinity", .float (1.0 / 0.0)), ("-Infinity", .float (-1.0 / 0.0))]
  (words.find? fun (word, _) => word.toList.isPrefixOf cs).map fun (word, j) =>
    (j, cs.drop word.length)

def readScalar (cs : List Char) : Option (Json × List Char) :=
  match readLiteral cs with
  | some answer => some answer
  | none =>
    match cs with
    | [] => none
    | '-' :: rest => (readUnsigned true rest).map fun (n, rest) => (.number n, rest)
    | c :: rest =>
      if c = doubleQuote then (readText rest).map fun (t, rest) => (.string (String.ofList t), rest)
      else (readUnsigned false cs).map fun (n, rest) => (.number n, rest)

/-- Puts a field in its place: a name that is present keeps its position and takes the new
value. -/
def putField (fields : List (String × Json)) (name : String) (j : Json) : List (String × Json) :=
  if fields.any (·.1 == name) then
    fields.map fun (other, k) => if other == name then (other, j) else (other, k)
  else fields ++ [(name, j)]

def readItems (value : List Char → Option (Json × List Char)) :
    (fuel : Nat) → List Json → List Char → Option (List Json × List Char)
  | 0, _, _ => none
  | fuel + 1, before, cs => do
    let (j, rest) ← value (skipSpace cs)
    match skipSpace rest with
    | ',' :: rest => readItems value fuel (j :: before) rest
    | ']' :: rest => return ((j :: before).reverse, rest)
    | _ => none

def readFields (value : List Char → Option (Json × List Char)) :
    (fuel : Nat) → List (String × Json) → List Char → Option (List (String × Json) × List Char)
  | 0, _, _ => none
  | fuel + 1, before, cs =>
    match skipSpace cs with
    | c :: rest => do
      if c ≠ doubleQuote then none
      let (name, rest) ← readText rest
      let .cons ':' rest := skipSpace rest | none
      let (j, rest) ← value (skipSpace rest)
      let fields := putField before (String.ofList name) j
      match skipSpace rest with
      | ',' :: rest => readFields value fuel fields rest
      | '\x7d' :: rest => return (fields, rest)
      | _ => none
    | [] => none

def readEmpty (cs : List Char) : Option (Json × List Char) :=
  match cs with
  | '[' :: rest =>
    match skipSpace rest with
    | ']' :: rest => some (.array [], rest)
    | _ => none
  | '\x7b' :: rest =>
    match skipSpace rest with
    | '\x7d' :: rest => some (.object [], rest)
    | _ => none
  | _ => none

/-- A value at the head of the text; `depth` collections with members may still be opened. -/
def readValue : (depth : Nat) → List Char → Option (Json × List Char)
  | 0, cs => (readEmpty cs).or (readScalar cs)
  | depth + 1, cs =>
    match readEmpty cs, cs with
    | some answer, _ => some answer
    | none, '[' :: rest =>
      (readItems (readValue depth) (rest.length + 1) [] rest).map fun (items, rest) =>
        (.array items, rest)
    | none, '\x7b' :: rest =>
      (readFields (readValue depth) (rest.length + 1) [] rest).map fun (fields, rest) =>
        (.object fields, rest)
    | none, cs => readScalar cs

/-- A text that is one value with nothing but space around it; `depth` collections with members may
be open at once. -/
def readTo? (depth : Nat) (cs : List Char) : Option Json := do
  let (j, rest) ← readValue depth (skipSpace cs)
  if (skipSpace rest).isEmpty then some j else none

def depthLimit : Nat := 200

def read? (cs : List Char) : Option Json :=
  readTo? depthLimit cs

def ofBytes? (bytes : List UInt8) : Option Json :=
  match Utf8.decode bytes with
  | .ok cs => read? cs
  | .error _ => none

end Census.Json
