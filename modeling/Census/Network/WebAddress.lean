import Census.Failure.Basic
import Census.Network.Address
import Census.Network.Name.Basic
import Census.Network.Percent
import Census.Number.Numeral
import Census.Text.Lower
/-! Addresses of web requests in their normal form: ASCII only, the scheme and the host in lower
case, no default port, and no points along the path. An address without a scheme and a host is
relative. -/
namespace Census.Network

open Census.Text

structure WebAddress where
  scheme : List Char
  user : List Char
  host : List Char
  port : Option Int
  path : List Char
  query : Option (List Char)
  fragment : Option (List Char)
deriving DecidableEq

namespace WebAddress

def refusal : Failure := .outside .address "invalid address"

def sizeLimit : Nat := 65536

def splitScheme (cs : List Char) : List Char × List Char :=
  match cut ':' cs with
  | (scheme, some rest) =>
    if (scheme.head?.all Char.isAlpha) &&
      scheme.all fun c => c.isAlphanum || c == '+' || c == '-' || c == '.' then (scheme, rest)
    else ([], cs)
  | _ => ([], cs)

def splitAuthority (cs : List Char) : List Char × List Char :=
  match cs with
  | '/' :: '/' :: rest =>
    let authority := rest.takeWhile fun c => c ≠ '/' ∧ c ≠ '?' ∧ c ≠ '#'
    (authority, rest.drop authority.length)
  | cs => ([], cs)

def cutLast (separator : Char) (cs : List Char) : Option (List Char) × List Char :=
  let after := (cs.reverse.takeWhile (· ≠ separator)).reverse
  if after.length = cs.length then (none, cs)
  else (some (cs.take (cs.length - after.length - 1)), after)

def splitHost (cs : List Char) : List Char × List Char :=
  let (host, rest) :=
    match cs.head?, cutLast ']' cs with
    | some '[', (some inside, after) => (inside ++ [']'], after)
    | _, _ => (cs.takeWhile (· ≠ ':'), cs.dropWhile (· ≠ ':'))
  match rest with
  | ':' :: port => (host, port)
  | port => (host, port)

def defaultPort? (scheme : List Char) : Option Int :=
  [("ftp", 21), ("http", 80), ("https", 443), ("ws", 80), ("wss", 443)].lookup
    (String.ofList scheme)

/-- A port by number. It is left out if the scheme, as it is written, has it by default. -/
def port? (scheme text : List Char) : Option (Option Int) :=
  if text.isEmpty then some none
  else match Number.readWhole (String.ofList text) with
    | .ok n => some (if defaultPort? scheme = some n then none else some n)
    | .error _ => none

/-- Whether a host has the look of four numbers: digits, and any three characters between them. A
run of digits alone can be taken for numbers of one digit with a digit between any two. -/
def looksNumeric (cs : List Char) : Bool :=
  let runs := cs.splitOnP fun c => (asciiDigit? c).isNone
  runs.length ≤ 4 && runs.all (!·.isEmpty) &&
    4 ≤ runs.foldl (fun numbers run => numbers + (run.length + 1) / 2) 0

/-- A host in its normal form. One that looks like numbers or is bracketed must be an address. -/
def host? (cs : List Char) : Option (List Char) :=
  if cs.isEmpty then some []
  else if looksNumeric cs then
    match Address.read? cs with
    | some (.v4 _) => some cs
    | _ => none
  else if cs.head? = some '[' ∧ cs.getLast? = some ']' then
    let inside := (cs.drop 1).dropLast
    match Address.read? inside with
    | some (.v6 _ _) => some inside
    | _ => none
  else if cs.all Name.Punycode.isAscii then some (percentEncode hostSafe (lower cs))
  else Name.toAscii? (lower cs)
where
  hostSafe (c : Char) : Bool :=
    c.isAlphanum || "-._~!$&'()*+,;=\"`\x7b\x7d%|\\".toList.contains c

def isSoundPath (hasScheme hasAuthority : Bool) (path : List Char) : Bool :=
  if hasAuthority then path.isEmpty || path.head? == some '/'
  else hasScheme || (path.take 2 != ['/', '/'] && path.head? != some ':')

/-- Steps along a path; two points go back, though never above the root. -/
def walk : (done : List (List Char)) → List (List Char) → List (List Char)
  | done, [] => done.reverse
  | done, part :: rest =>
    if part = ['.'] then walk done rest
    else if part = ['.', '.'] then
      walk (if done = [[]] then done else done.tail) rest
    else walk (part :: done) rest

def withoutPoints (path : List Char) : List Char :=
  ['/'].intercalate (walk [] (path.splitOn '/'))

/-- Printable ASCII without some characters. The percent sign always stands for itself, whether
digits follow it or not. -/
def visibleBut (others : String) (c : Char) : Bool :=
  0x20 < c.toNat && c.toNat < 0x7F && !others.toList.contains c

def userSafe : Char → Bool := visibleBut "\"#<>?`\x7b\x7d/;=@[\\]^|"
def pathSafe : Char → Bool := visibleBut "\"#<>?`\x7b\x7d"
def querySafe : Char → Bool := visibleBut "\"#<>"
def fragmentSafe : Char → Bool := visibleBut "\"<>`"

def read? (cs : List Char) : Option WebAddress := do
  if sizeLimit < cs.length ∨ cs.any fun c => c.toNat < 0x20 || c.toNat == 0x7F then none
  let (scheme, rest) := splitScheme cs
  let (authority, rest) := splitAuthority rest
  let (rest, fragment) := cut '#' rest
  let (path, query) := cut '?' rest
  let (user, hostAndPort) := cutLast '@' authority
  let (host, port) := splitHost hostAndPort
  let user := percentEncode userSafe (user.getD [])
  let host ← host? host
  let port ← port? scheme port
  let hasAuthority := !user.isEmpty || !host.isEmpty || port.isSome
  if !isSoundPath (!scheme.isEmpty) hasAuthority path then none
  let path := if scheme.isEmpty && !hasAuthority then path else withoutPoints path
  return { scheme := scheme.map Char.toLower, user, host, port
           path := percentEncode pathSafe path
           query := query.map (percentEncode querySafe)
           fragment := fragment.map (percentEncode fragmentSafe) }

def isRelative (a : WebAddress) : Bool :=
  a.scheme.isEmpty || a.host.isEmpty

def atRoot (a : WebAddress) : WebAddress :=
  { scheme := [], user := [], host := [], port := none
    path := '/' :: a.path.dropWhile (· = '/')
    query := a.query
    fragment := none }

def on (scheme host : List Char) (a : WebAddress) : WebAddress :=
  if a.isRelative then
    { a.atRoot with scheme, host, path := withoutPoints a.atRoot.path }
  else a

def requested (a : WebAddress) : WebAddress :=
  if a.isRelative then a.atRoot else a

def writeHost (a : WebAddress) : List Char :=
  (if a.host.contains ':' then '[' :: a.host ++ [']'] else a.host) ++
    (match a.port with
      | none => []
      | some n => ':' :: (toString n).toList)

def writeAuthority (a : WebAddress) : List Char :=
  (if a.user.isEmpty then [] else a.user ++ ['@']) ++ a.writeHost

def write (a : WebAddress) : List Char :=
  let authority := a.writeAuthority
  (if a.scheme.isEmpty then [] else a.scheme ++ [':']) ++
    (if authority.isEmpty then [] else '/' :: '/' :: authority) ++ a.path ++
    ((a.query.map ('?' :: ·)).getD []) ++ ((a.fragment.map ('#' :: ·)).getD [])

def text (a : WebAddress) : String :=
  String.ofList a.write

end WebAddress

end Census.Network
