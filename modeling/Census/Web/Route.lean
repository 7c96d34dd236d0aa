import Census.Network.Percent
import Census.Web.Request
/-! Routes of the server. A path is looked up with the method of its request; a path that only
another method knows, one that only lacks or has a slash at its end, and one under the files' root
are told apart from a path that nothing answers. -/
namespace Census.Web

inductive Route
  | report
  | page
  | summary
  | dashboard
  | health
  | metrics
deriving DecidableEq, Repr

namespace Route

def all : List Route := [report, page, summary, dashboard, health, metrics]

def method : Route → String
  | report => "POST"
  | _ => "GET"

def path : Route → String
  | report | page => "/telemetry"
  | summary => "/telemetry/summary"
  | dashboard => "/"
  | health => "/health"
  | metrics => "/metrics"

/-- The name under which requests of a route are counted. -/
def label : Route → String
  | report | page => ""
  | summary => "/summary"
  | r => r.path

/-- A line break at the end of a path is passed over. -/
def hasPath (r : Route) (path : List Char) : Bool :=
  path == r.path.toList || path == r.path.toList ++ ['\n']

end Route

inductive Destination
  | operation (r : Route)
  | otherMethod (r : Route)
  | file (path : List Char)
  /-- The same path with another end is known. -/
  | elsewhere (path : List Char)
  | nowhere
deriving DecidableEq

def filesRoot : List Char := "/static/".toList

def filePath? (path : List Char) : Option (List Char) :=
  if filesRoot.isPrefixOf path then
    let rest := path.drop filesRoot.length
    if rest.dropLast.contains '\n' then none else some rest
  else none

def known (path : List Char) : Bool :=
  Route.all.any (·.hasPath path) || (filePath? path).isSome

/-- A path without the slashes at its end, or else with one. -/
def otherEnd (path : List Char) : List Char :=
  if path.getLast? = some '/' then (path.reverse.dropWhile (· = '/')).reverse else path ++ ['/']

def Destination.find (method : String) (path : List Char) : Destination :=
  match Route.all.find? (fun r => r.hasPath path && r.method == method) with
  | some r => .operation r
  | none =>
    match filePath? path with
    | some rest => .file rest
    | none =>
      match Route.all.find? (·.hasPath path) with
      | some r => .otherMethod r
      | none =>
        if path ≠ ['/'] ∧ known (otherEnd path) then .elsewhere (otherEnd path) else .nowhere

def Destination.label : Destination → String
  | operation r | otherMethod r => r.label
  | _ => "unmatched"

/-- Characters that stand for themselves in the address of another place. -/
def standsForItself (c : Char) : Bool :=
  c.isAlphanum || "_.-~:/%#?=@[]!$&'()*+,;".toList.contains c

def address (scheme : List Char) (host : String) (path query : List Char) : List Char :=
  Network.percentEncode standsForItself (scheme ++ "://".toList ++ host.toList ++ path ++
    if query.isEmpty then [] else '?' :: query)

end Census.Web
