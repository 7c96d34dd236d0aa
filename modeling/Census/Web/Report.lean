import Census.Record.Submission
import Census.Text.Within
import Census.Web.Request
import Census.Web.Response
/-! Reports as requests carry them. The media type is looked at before the body. -/
namespace Census.Web

inductive ReportRefusal
  | mediaType
  | malformed (faults : Nat)
deriving DecidableEq, Repr

namespace ReportRefusal

def status : ReportRefusal → Nat
  | mediaType => 415
  | malformed _ => 400

def detail : ReportRefusal → String
  | mediaType => "unsupported content type"
  | malformed faults => "malformed entity: " ++ toString faults ++ " error(s)"

def response (r : ReportRefusal) : Response :=
  .detail r.status r.detail

end ReportRefusal

def mediaType : List Char := "application/json".toList

def readReport (headers : List (String × String)) (body : List UInt8) :
    Except ReportRefusal Submission :=
  if Text.occursIn mediaType (header headers "content-type").toList then
    match Submission.ofBytes body with
    | .ok s => .ok s
    | .error faults => .error (.malformed faults.length)
  else .error .mediaType

end Census.Web
