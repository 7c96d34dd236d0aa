import Census.Json.Reader
import Census.Record.Basic
import Census.Text.Blank
import Census.Time.Reader
/-! Reports as clients submit them. Service, address and version must say something; the other
fields may be missing, and unknown ones are ignored. -/
namespace Census

open Time

structure Submission where
  service : String
  ipAddress : String
  macAddress : String
  deploymentId : String
  version : String
  lastSeen : Option Moment
deriving DecidableEq

namespace Submission

def required (fields : List (String × Json)) (name : String) : Checked String :=
  match Json.field? fields name with
  | none => Checked.fault .missing name
  | some (.string s) => if Text.isAllBlank s then Checked.fault .blank name else .ok s
  | some _ => Checked.fault .text name

def optional (fields : List (String × Json)) (name : String) : Checked String :=
  match Json.field? fields name with
  | none => .ok ""
  | some (.string s) => .ok s
  | some _ => Checked.fault .text name

def optionalMoment (fields : List (String × Json)) (name : String) : Checked (Option Moment) :=
  match Json.field? fields name with
  | none => .ok none
  | some .null => .ok none
  | some j =>
    match Moment.ofJson? j with
    | some m => .ok (some m)
    | none => Checked.fault .moment name

def ofFields (fields : List (String × Json)) : Checked Submission :=
  ((((((required fields "service").map Submission.mk).apply (required fields "ip_address")).apply
    (optional fields "mac_address")).apply (optional fields "deployment_id")).apply
    (required fields "magistrala_version")).apply (optionalMoment fields "last_seen")

def ofJson : Json → Checked Submission
  | .object fields => ofFields fields
  | _ => .error [⟨.model, []⟩]

def ofBytes (bytes : List UInt8) : Checked Submission :=
  match Json.ofBytes? bytes with
  | some j => ofJson j
  | none => .error [⟨.malformed, []⟩]

/-- The record of a submission before its place and the time of arrival are known. -/
def toRecord (s : Submission) : Record where
  service := s.service
  services := []
  ipAddress := s.ipAddress
  macAddress := s.macAddress
  deploymentId := s.deploymentId
  version := s.version
  country := ""
  city := ""
  latitude := 0.0
  longitude := 0.0
  lastSeen := none
  serviceTime := s.lastSeen

end Submission

end Census
