import Census.Number.Basic
import Census.Text.Blank
import Census.Text.Digit
/-! Numerals in texts. Data that comes from tables and lookups is read in the wide form (digits of
every script); query parameters and settings in the narrow form (ASCII digits, leading zeros, a
fraction of zeros after a whole number). Both allow White_Space around and single underscores
between digits. -/
namespace Census.Number

open Census.Text

def splitSign : List Char → Bool × List Char
  | '-' :: cs => (true, cs)
  | '+' :: cs => (false, cs)
  | cs => (false, cs)

def digitLimit : Nat := 4300

/-- Why a text is no whole number. The length is judged before what follows the digits. -/
inductive WholeFault
  | malformed
  | tooLong (digits : Nat)
deriving DecidableEq

/-- Digits of every script as ASCII digits; no other character changes. -/
def toAscii (c : Char) : Char :=
  match digit? c with
  | some d => Nat.digitChar d
  | none => c

def wellSeparated (cs : List Char) : Bool :=
  cs.head? != some '_' && cs.getLast? != some '_' &&
    !((cs.zip cs.tail).any fun (a, b) => a == '_' && b == '_')

def readWhole (s : String) : Except WholeFault Int :=
  let (negative, body) := splitSign ((trimBy isWhiteSpace s.toList).map toAscii)
  let run := body.takeWhile fun c => (asciiDigit? c).isSome || c == '_'
  let digits := run.filterMap asciiDigit?
  if !wellSeparated run then .error .malformed
  else if digitLimit < digits.length then .error (.tooLong digits.length)
  else if run.length < body.length || digits.isEmpty then .error .malformed
  else .ok (if negative then -(ofDigits digits : Int) else ofDigits digits)

def readWord? (cs : List Char) : Option Float :=
  match String.ofList (cs.map Char.toLower) with
  | "inf" => some (1.0 / 0.0)
  | "infinity" => some (1.0 / 0.0)
  | "nan" => some (0.0 / 0.0)
  | _ => none

def readExponent? : List Char → Option Int
  | [] => some 0
  | c :: cs =>
    if c = 'e' ∨ c = 'E' then
      let (negative, body) := splitSign cs
      if body.isEmpty then none
      else do
        let n := ofDigits (← body.mapM asciiDigit?)
        return if negative then -(n : Int) else n
    else none

def readPlainDecimal? (cs : List Char) : Option Float :=
  let (negative, body) := splitSign cs
  match readWord? body with
  | some x => some (if negative then -x else x)
  | none =>
    let isDigit (c : Char) : Bool := (asciiDigit? c).isSome
    let whole := body.takeWhile isDigit
    let rest := body.dropWhile isDigit
    let (fraction, rest) :=
      match rest with
      | '.' :: cs => (cs.takeWhile isDigit, cs.dropWhile isDigit)
      | cs => ([], cs)
    if whole.isEmpty && fraction.isEmpty then none
    else do
      let exponent ← readExponent? rest
      let digits := (whole ++ fraction).filterMap asciiDigit?
      return ofDecimal negative (ofDigits digits) (exponent - fraction.length)

/-- Removes underscores, each of which must stand between two digits. -/
def removeUnderscores? (before : Option Char) : List Char → Option (List Char)
  | [] => some []
  | '_' :: rest =>
    if ((before.bind asciiDigit?).isSome && (rest.head?.bind asciiDigit?).isSome) then
      removeUnderscores? (some '_') rest
    else none
  | c :: rest => (removeUnderscores? (some c) rest).map (c :: ·)

def readDecimal? (s : String) : Option Float := do
  readPlainDecimal? (← removeUnderscores? none ((trimBy isWhiteSpace s.toList).map toAscii))

/-- Drops leading zeros, with underscores among them; the zero before a point stays, and so does
the last character of a run of zeros. What follows is a digit other than zero or a minus sign. -/
def dropLeadingZeros? (cs : List Char) : Option (List Char) :=
  let startsNumber (c : Char) : Bool := c == '-' || (c != '0' && (asciiDigit? c).isSome)
  match cs with
  | [] => none
  | c :: rest =>
    if startsNumber c then some cs
    else if c ≠ '0' then none
    else
      let zeros := rest.takeWhile fun d => d == '0' || d == '_'
      match rest.drop zeros.length with
      | [] => some [(zeros.getLast?).getD '0']
      | '.' :: tail => some ((zeros.getLast?).getD '0' :: '.' :: tail)
      | d :: tail => if startsNumber d then some (d :: tail) else none

def dropZeroFraction (cs : List Char) : List Char :=
  let whole := cs.takeWhile (· ≠ '.')
  let fraction := cs.drop (whole.length + 1)
  if !fraction.isEmpty && fraction.all (· == '0') then whole else cs

def dropPlus? : List Char → Option (List Char)
  | '+' :: '-' :: _ => none
  | '+' :: cs => some cs
  | cs => some cs

def splitMinus : List Char → Bool × List Char
  | '-' :: cs => (true, cs)
  | cs => (false, cs)

/-- The length of the whole number at the head of a text, with its sign; zero if it begins with a
zero or is none. -/
def wholeLength (cs : List Char) : Nat :=
  let (negative, body) := splitMinus cs
  let run := body.takeWhile fun c => (asciiDigit? c).isSome
  if run.isEmpty || run.head? == some '0' then 0
  else run.length + if negative then 1 else 0

/-- A whole number in the strict form: a minus sign at most, no leading zeros, and no more
characters than the limit. -/
def readStrict? (cs : List Char) : Option Int := do
  let (negative, body) := splitMinus cs
  if body.isEmpty || (body.head? == some '0' && 1 < body.length) || digitLimit < cs.length then none
  let n : Int := ofDigits (← body.mapM asciiDigit?)
  return if negative then -n else n

def strictForm? (cs : List Char) : Option (List Char) := do
  let cs ← dropLeadingZeros? (← dropPlus? (trimBy isWhiteSpace cs))
  let cs := dropZeroFraction cs
  return if wellSeparated cs then cs.filter (· ≠ '_') else cs

/-- A whole number in the narrow form. Only a text that begins with its digits can be too long;
any other that does not fit is malformed. -/
def readParameter (s : String) : Except WholeFault Int :=
  let cs := s.toList
  if digitLimit < wholeLength cs then .error (.tooLong (wholeLength cs))
  else match (readStrict? cs).or ((strictForm? cs).bind readStrict?) with
    | some n => .ok n
    | none => .error .malformed

/-- A decimal in the narrow form: with white space around, or with underscores anywhere but at the
ends and beside one another. -/
def readSetting? (s : String) : Option Float :=
  let cs := s.toList
  (readPlainDecimal? (trimBy isWhiteSpace cs)).or
    (if wellSeparated cs then readPlainDecimal? (cs.filter (· ≠ '_')) else none)

end Census.Number
