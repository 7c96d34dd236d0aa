import Census.Network.Locator
import Census.Settings.Basic
import Census.Text.Blank
/-! Connections to the store of rate limits. An address may hold a user, a host, a port, the number
of a database and further options, which go before the settings. -/
namespace Census

open Network Text

/-- A port as it is given: by number before the path, or in the words of an option. -/
inductive Port
  | number (n : Nat)
  | words (s : String)
deriving DecidableEq

structure ConnectionPool where
  maxConnections : Int
  host : Option String
  port : Option Port
  db : Option Int
  username : Option String
  password : Option String
  socketTimeout : Option Number
  connectTimeout : Option Number
  healthCheckInterval : Option Number
deriving DecidableEq

namespace ConnectionPool

def badOption (name : String) : Failure :=
  Failure.ofValue ("Invalid value for '" ++ name ++ "' in connection URL.")

def wholeOption (name value : String) : Except Failure Int :=
  (Number.readWhole value).mapError fun _ => badOption name

def decimalOption (name value : String) : Except Failure Number :=
  match Number.readDecimal? value with
  | some x => .ok (.float x)
  | none => .error (badOption name)

def certificateChecks : List String :=
  ["VERIFY_DEFAULT", "VERIFY_CRL_CHECK_LEAF", "VERIFY_CRL_CHECK_CHAIN", "VERIFY_X509_STRICT",
   "VERIFY_ALLOW_PROXY_CERTS", "VERIFY_X509_TRUSTED_FIRST", "VERIFY_X509_PARTIAL_CHAIN"]

/-- Names of checks between commas; brackets around them do not count. -/
def checksOption (name value : String) : Except Failure Unit :=
  let names := (value.toList.filter fun c => c ≠ '[' ∧ c ≠ ']').splitOn ','
  if names.all fun n => certificateChecks.contains (String.ofList (trimBy isBlank n)) then .ok ()
  else .error (badOption name)

/-- Applies one option of the address. Some are checked only, and unknown ones change nothing that
is kept here. -/
def applyOption (p : ConnectionPool) (name value : String) : Except Failure ConnectionPool :=
  match name with
  | "db" => do return { p with db := some (← wholeOption name value) }
  | "max_connections" => do return { p with maxConnections := ← wholeOption name value }
  | "socket_timeout" => do return { p with socketTimeout := some (← decimalOption name value) }
  | "socket_connect_timeout" => do
    return { p with connectTimeout := some (← decimalOption name value) }
  | "health_check_interval" => do
    return { p with healthCheckInterval := some (.int (← wholeOption name value)) }
  | "host" => .ok { p with host := some value }
  | "port" => .ok { p with port := some (.words value) }
  | "username" => .ok { p with username := some value }
  | "password" => .ok { p with password := some value }
  | "protocol" | "socket_read_size" | "ssl_min_version" => do
    let _ ← wholeOption name value
    return p
  | "timeout" => do
    let _ ← decimalOption name value
    return p
  | "ssl_include_verify_flags" | "ssl_exclude_verify_flags" => do
    checksOption name value
    return p
  | _ => .ok p

/-- The first value of each name; empty values do not count. -/
def options (query : List Char) : List (String × String) :=
  (formFields query).foldl (fun seen (name, value) =>
    if value = "" ∨ seen.any (·.1 == name) then seen else seen ++ [(name, value)]) []

def decoded (cs : List Char) : String :=
  String.ofList (percentDecode cs)

def nonempty (cs : List Char) : Option String :=
  if cs.isEmpty then none else some (decoded cs)

def pathDatabase (path : List Char) : Option Int :=
  (Number.readWhole (String.ofList ((percentDecode path).filter (· ≠ '/')))).toOption

def usualSize : Int := 100

/-- A size of zero leaves the choice to the pool. -/
def checkSize (p : ConnectionPool) : Except Failure ConnectionPool :=
  if p.maxConnections = 0 then .ok { p with maxConnections := usualSize }
  else if p.maxConnections < 0 then
    .error (Failure.ofValue "\"max_connections\" must be a positive integer")
  else .ok p

def ofSettings (s : Settings) : Except Failure ConnectionPool := do
  let url := Locator.ofChars s.redisUrl.toList
  url.check
  let start : ConnectionPool :=
    { maxConnections := s.redisMaxConnections
      host := none
      port := none
      db := none
      username := none
      password := none
      socketTimeout := some (.int s.redisSocketTimeout)
      connectTimeout := some (.int s.redisSocketTimeout)
      healthCheckInterval := some (.int 30) }
  let p ← (options url.query).foldlM (fun p (name, value) => applyOption p name value) start
  let (user, password, host) := Locator.splitAuthority url.authority
  let p := { p with
    username := (nonempty (user.getD [])).or p.username
    password := (nonempty (password.getD [])).or p.password }
  if url.scheme = "unix".toList then checkSize p
  else if url.scheme = "redis".toList ∨ url.scheme = "rediss".toList then
    let (host, port) := Locator.splitHost host
    let port ← Locator.port? port
    let p := { p with
      host := (nonempty (Locator.hostName host)).or p.host
      port := (port.map .number).or p.port
      db := if p.db.isNone && !url.path.isEmpty then pathDatabase url.path else p.db }
    checkSize p
  else
    .error (Failure.ofValue ("Redis URL must specify one of the following schemes " ++
      "(redis://, rediss://, unix://)"))

end ConnectionPool

end Census
