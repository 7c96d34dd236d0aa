import Census.Json.Basic
/-! The written form of values: ASCII only, one space after commas and colons. Inside a page the
characters that could end a script or an attribute are written by number as well, and the fields of
objects are sorted by name. -/
namespace Census.Json

open Census.Text

def escapeUnit (n : Nat) : List Char :=
  '\\' :: 'u' :: hex 4 n

/-- A character inside a written text; those beyond the basic plane take two units. -/
def escapeChar (c : Char) : List Char :=
  let n := c.toNat
  if c = '\\' ∨ c = doubleQuote then ['\\', c]
  else if c = '\n' then ['\\', 'n']
  else if c = '\r' then ['\\', 'r']
  else if c = '\t' then ['\\', 't']
  else if n = 8 then ['\\', 'b']
  else if n = 12 then ['\\', 'f']
  else if 0x20 ≤ n ∧ n < 0x7F then [c]
  else if n < 0x10000 then escapeUnit n
  else escapeUnit (0xD800 + (n - 0x10000) / 0x400) ++ escapeUnit (0xDC00 + (n - 0x10000) % 0x400)

def writeText (s : String) : List Char :=
  doubleQuote :: s.toList.flatMap escapeChar ++ [doubleQuote]

def writeNumber : Number → List Char
  | .int n => (toString n).toList
  | .float x =>
    if Number.isFinite x then (Number.floatText x).toList
    else if x == x then (if Number.isNegative x then "-Infinity" else "Infinity").toList
    else "NaN".toList

def joined : List (List Char) → List Char
  | [] => []
  | [x] => x
  | x :: y :: rest => x ++ ',' :: ' ' :: joined (y :: rest)

mutual

def write : Json → List Char
  | .null => "null".toList
  | .bool b => (if b then "true" else "false").toList
  | .number n => writeNumber n
  | .string s => writeText s
  | .array items => '[' :: joined (writeItems items) ++ [']']
  | .object fields => '\x7b' :: joined (writeFields fields) ++ ['\x7d']

def writeItems : List Json → List (List Char)
  | [] => []
  | j :: js => write j :: writeItems js

def writeFields : List (String × Json) → List (List Char)
  | [] => []
  | (name, j) :: rest => (writeText name ++ ':' :: ' ' :: write j) :: writeFields rest

end

def text (j : Json) : String :=
  String.ofList j.write

mutual

def sorted : Json → Json
  | .array items => .array (sortedItems items)
  | .object fields =>
    .object ((sortedFields fields).mergeSort fun a b => !(decide (b.1 < a.1)))
  | j => j

def sortedItems : List Json → List Json
  | [] => []
  | j :: js => sorted j :: sortedItems js

def sortedFields : List (String × Json) → List (String × Json)
  | [] => []
  | (name, j) :: rest => (name, sorted j) :: sortedFields rest

end

/-- The characters with a meaning in markup, by number. -/
def escapeMarkup (c : Char) : List Char :=
  if c = '<' ∨ c = '>' ∨ c = '&' ∨ c = singleQuote then escapeUnit c.toNat else [c]

def scriptText (j : Json) : List Char :=
  j.sorted.write.flatMap escapeMarkup

end Census.Json
