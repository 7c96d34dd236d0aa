import Census.Failure.Basic
import Census.Json.Basic
/-! Responses, and the responses that stand for failures. Failures of this library are told to the
client; all others are hidden behind a plain text, except that a timeout is named. -/
namespace Census.Web

inductive Body
  | empty
  | json (j : Json)
  | text (cs : List Char)
  | lines (ls : List String)

structure Response where
  status : Nat
  type : Option String
  body : Body
  headers : List (String × String) := []

mutual

/-- A value for messages, where numbers that are not finite become null. -/
def finite : Json → Json
  | .number (.float x) => if Number.isFinite x then .float x else .null
  | .array items => .array (finiteItems items)
  | .object fields => .object (finiteFields fields)
  | j => j

def finiteItems : List Json → List Json
  | [] => []
  | j :: js => finite j :: finiteItems js

def finiteFields : List (String × Json) → List (String × Json)
  | [] => []
  | (name, j) :: rest => (name, finite j) :: finiteFields rest

end

namespace Response

def json (status : Nat) (j : Json) : Response where
  status := status
  type := some "application/json"
  body := .json (finite j)

def error (status : Nat) (message : String) : Response :=
  json status (.object [("error", .string message)])

def detail (status : Nat) (message : String) : Response :=
  json status (.object [("detail", .string message)])

def markup (cs : List Char) : Response where
  status := 200
  type := some "text/html; charset=utf-8"
  body := .text cs

def script (cs : List Char) : Response where
  status := 200
  type := some "text/javascript; charset=utf-8"
  body := .text cs

def part (r : Response) (cs : List Char) : Response :=
  { r with status := 206, body := .text cs }

def unchanged : Response where
  status := 304
  type := none
  body := .empty

def plain (status : Nat) (message : String) : Response where
  status := status
  type := some "text/plain; charset=utf-8"
  body := .text message.toList

def metrics (ls : List String) : Response where
  status := 200
  type := some "text/plain; version=1.0.0; charset=utf-8"
  body := .lines ls

def internalError : Response := plain 500 "Internal Server Error"

def notFound : Response := detail 404 "Not Found"

def notAllowed (methods : String) : Response :=
  { detail 405 "Method Not Allowed" with headers := [("allow", methods)] }

def redirect (location : List Char) : Response where
  status := 307
  type := none
  body := .empty
  headers := [("location", String.ofList location)]

def limited : Response :=
  { error 429 "Rate limit exceeded" with headers := [("x-ratelimit-remaining", "0")] }

def bare (r : Response) : Response :=
  { r with body := .empty }

def statusOf (f : Failure) : Option Nat :=
  if f.isA .query || f.isA .location then some 400
  else if f.isA .saving then some (if (f.find? .invalidEvent).isSome then 403 else 500)
  else if f.isA .reading || f.isA .rendering then some 500
  else none

def ofFailure (f : Failure) : Response :=
  match statusOf f with
  | some status => error status f.message
  | none => if f.isA .timeout then error 504 "request timed out" else internalError

end Response

end Census.Web
