import Census.Network.Header
import Census.Text.Case
import Census.Web.Target
/-! Requests as the server meets them. -/
namespace Census.Web

structure Request where
  /-- In upper case. -/
  method : String
  target : Target
  /-- With their names in lower case. -/
  headers : List (String × String)
  body : List UInt8
  client : String
deriving DecidableEq

def header (headers : List (String × String)) (name : String) : String :=
  (headers.lookup name).getD ""

namespace Request

/-- A request. Its target is read first, then its headers; without a header for it the host is that
of the target. -/
def make (method target : String) (headers : List (String × String)) (body : List UInt8)
    (client : String) : Except Failure Request := do
  let t ← Target.read target.toList
  headers.forM fun (name, value) => Network.Header.check name value
  t.reach
  let headers := headers.map fun (name, value) => (Text.lowerCase name, value)
  return ⟨Text.upperCase method, t, headers ++ [("host", String.ofList t.host)], body, client⟩

def fields (r : Request) : List (String × String) :=
  Network.formFields r.target.query

def host (r : Request) : String :=
  header r.headers "host"

end Request

end Census.Web
