import Census.Network.WebAddress
/-! Targets of requests: what of an address reaches the server. Whatever follows a number sign stays
with the client. -/
namespace Census.Web

open Census.Network

/-- The scheme and the host of an address, its path as it is routed, and its query. -/
structure Target where
  scheme : List Char
  host : List Char
  path : List Char
  query : List Char
deriving DecidableEq

namespace Target

def usualHost : List Char := "testserver".toList

/-- Paths are decoded by the client and by the server. -/
def ofAddress (a : WebAddress) : Target :=
  ⟨a.scheme, a.writeHost, percentDecode (percentDecode (if a.path.isEmpty then ['/'] else a.path)),
    a.query.getD []⟩

def read (cs : List Char) : Except Failure Target :=
  match WebAddress.read? cs with
  | some a => .ok (ofAddress (a.on "http".toList usualHost))
  | none => .error WebAddress.refusal

/-- The path as a reader of the whole address finds it: without tabs and line breaks, and not beyond
a question mark or a number sign. -/
def addressPath (t : Target) : List Char :=
  (t.path.filter fun c => c ≠ '\t' ∧ c ≠ '\r' ∧ c ≠ '\n').takeWhile fun c => c ≠ '?' ∧ c ≠ '#'

def schemes : List String := ["http", "ws", "https", "wss"]

/-- Whether a target can be reached: its scheme must be one of requests, and what follows the first
colon of its host must be the number of a port. -/
def reach (t : Target) : Except Failure Unit :=
  let scheme := String.ofList t.scheme
  if !schemes.contains scheme then .error (.outside .key (Text.quoted scheme))
  else match cut ':' t.host with
    | (_, none) => .ok ()
    | (_, some port) =>
      let port := String.ofList port
      match Number.readWhole port with
      | .ok _ => .ok ()
      | .error .malformed => .error (.wholeNumber (Text.quoted port))
      | .error (.tooLong digits) => .error (.wholeLength digits)

end Target

end Census.Web
