import Census.Failure.Basic
import Census.Network.Address
import Census.Network.Percent
import Census.Number.Numeral
import Census.Text.Lower
/-! Locators: a scheme, an authority, a path and a query. The authority may name a user, and holds a
host and perhaps a port. -/
namespace Census.Network

open Census.Text

structure Locator where
  scheme : List Char
  authority : List Char
  path : List Char
  query : List Char

namespace Locator

def isSchemeChar (c : Char) : Bool :=
  c.isAlphanum || c == '+' || c == '-' || c == '.'

/-- Blanks and controls before an address do not belong to it, and line breaks and tabs nowhere. -/
def tidy (cs : List Char) : List Char :=
  (cs.dropWhile fun c => c.toNat ≤ 0x20).filter fun c => c ≠ '\t' ∧ c ≠ '\r' ∧ c ≠ '\n'

def splitScheme (cs : List Char) : List Char × List Char :=
  match cut ':' cs with
  | (scheme, some rest) =>
    if (scheme.head?.map Char.isAlpha).getD false && scheme.all isSchemeChar then
      (scheme.map Char.toLower, rest)
    else ([], cs)
  | _ => ([], cs)

def ofChars (cs : List Char) : Locator :=
  let (scheme, rest) := splitScheme (tidy cs)
  let (authority, rest) :=
    match rest with
    | '/' :: '/' :: rest =>
      let authority := rest.takeWhile fun c => c ≠ '/' ∧ c ≠ '?' ∧ c ≠ '#'
      (authority, rest.drop authority.length)
    | rest => ([], rest)
  let (path, query) := cut '?' (cut '#' rest).1
  ⟨scheme, authority, path, query.getD []⟩

def badBrackets : Failure := Failure.ofValue "Invalid IPv6 URL"

/-- A future form of addresses: its version in base sixteen, a point, and more. -/
def isFutureAddress : List Char → Bool
  | 'v' :: cs =>
    let version := cs.takeWhile fun c => (hexDigit? c).isSome
    match cs.drop version.length with
    | '.' :: _ :: _ => !version.isEmpty
    | _ => false
  | _ => false

def checkBracketed (host : List Char) : Except Failure Unit :=
  if host.head? = some 'v' then
    if isFutureAddress host then .ok () else .error (Failure.ofValue "IPvFuture address is invalid")
  else match Address.read? host with
    | some (.v6 _ _) => .ok ()
    | some (.v4 _) => .error (Failure.ofValue "An IPv4 address cannot be in brackets")
    | none => .error (Failure.notAnAddress (some (String.ofList host)))

def checkBrackets (authority : List Char) : Except Failure Unit :=
  if authority.contains '[' != authority.contains ']' then .error badBrackets
  else if !authority.contains '[' then .ok ()
  else
    let host := (authority.reverse.takeWhile (· ≠ '@')).reverse
    match cut '[' host with
    | (before, some bracketed) =>
      let (inside, after) := cut ']' bracketed
      let after := after.getD []
      if !before.isEmpty || (!after.isEmpty && after.head? != some ':') then .error badBrackets
      else checkBracketed inside
    | (host, none) => checkBracketed (cut ':' host).1

/-- Characters whose compatibility forms hold a character that parts an address. -/
def partingForms : List Nat :=
  [0x2047, 0x2048, 0x2049, 0x2100, 0x2101, 0x2105, 0x2106, 0x2A74, 0xFE13, 0xFE16, 0xFE55, 0xFE56,
   0xFE5F, 0xFE6B, 0xFF03, 0xFF0F, 0xFF1A, 0xFF1F, 0xFF20]

/-- An authority may not fall into other parts once its characters are replaced by their
compatibility forms. -/
def checkForms (authority : List Char) : Except Failure Unit :=
  if authority.any fun c => partingForms.contains c.toNat then
    .error (Failure.ofValue ("netloc '" ++ String.ofList authority ++
      "' contains invalid characters under NFKC normalization"))
  else .ok ()

def check (l : Locator) : Except Failure Unit := do
  checkBrackets l.authority
  checkForms l.authority

def splitAuthority (cs : List Char) : Option (List Char) × Option (List Char) × List Char :=
  let host := (cs.reverse.takeWhile (· ≠ '@')).reverse
  if host.length = cs.length then (none, none, cs)
  else
    let (user, password) := cut ':' (cs.take (cs.length - host.length - 1))
    (some user, password, host)

def splitHost (cs : List Char) : List Char × List Char :=
  match cut '[' cs with
  | (_, some bracketed) =>
    let (host, rest) := cut ']' bracketed
    (host, ((cut ':' (rest.getD [])).2).getD [])
  | _ =>
    let (host, port) := cut ':' cs
    (host, port.getD [])

def port? (cs : List Char) : Except Failure (Option Nat) :=
  if cs.isEmpty then .ok none
  else match cs.mapM asciiDigit? with
    | some ds =>
      let n := ofDigits ds
      if Number.digitLimit < ds.length then .error (.wholeLength ds.length)
      else if 65535 < n then .error (Failure.ofValue "Port out of range 0-65535")
      else .ok (if n = 0 then none else some n)
    | none =>
      .error (Failure.ofValue
        ("Port could not be cast to integer value as " ++ quoted (String.ofList cs)))

def hostName (cs : List Char) : List Char :=
  let zone := cs.dropWhile (· ≠ '%')
  lower (cs.takeWhile (· ≠ '%')) ++ zone

end Locator

end Census.Network
