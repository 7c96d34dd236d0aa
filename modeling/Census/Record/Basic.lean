import Census.Failure.Basic
import Census.Json.Check
import Census.Time.Written
/-! Records of deployments: what is kept of each report. The address, the hardware address and the
id of a deployment stay inside; messages carry the rest. -/
namespace Census

open Time

structure Record where
  service : String
  services : List String
  ipAddress : String
  macAddress : String
  deploymentId : String
  version : String
  country : String
  city : String
  latitude : Float
  longitude : Float
  lastSeen : Option Moment
  serviceTime : Option Moment
deriving DecidableEq

namespace Record

/-- What tells deployments apart: the id, or the address of those without one. -/
def deploymentKey (r : Record) : String :=
  if r.deploymentId = "" then r.ipAddress else r.deploymentId

def writeMoment : Option Moment → Json
  | none => .null
  | some m => .string m.wireText

def wire (r : Record) : Json :=
  .object [
    ("service", .string r.service),
    ("services", .array (r.services.map .string)),
    ("magistrala_version", .string r.version),
    ("country", .string r.country),
    ("city", .string r.city),
    ("latitude", .float r.latitude),
    ("longitude", .float r.longitude),
    ("last_seen", writeMoment r.lastSeen),
    ("timestamp", writeMoment r.serviceTime)]

def SameOutside (a b : Record) : Prop :=
  { a with ipAddress := b.ipAddress, macAddress := b.macAddress, deploymentId := b.deploymentId }
    = b

def checkItems (name : String) : (place : Nat) → List Json → Checked (List String)
  | _, [] => .ok []
  | i, j :: js =>
    let item : Checked String :=
      match j with
      | .string s => .ok s
      | _ => .error [⟨.text, [.name name, .index i]⟩]
    (Checked.apply (item.map List.cons) (checkItems name (i + 1) js))

def checkList (name : String) : Json → Checked (List String)
  | .array items => checkItems name 0 items
  | _ => Checked.fault .list name

def check (fields : List (String × Json)) (lastSeen serviceTime : Option Moment) :
    Checked Record :=
  let text (name : String) : Checked String :=
    Json.checkText name ((Json.field? fields name).getD (.string ""))
  let coordinate (name : String) : Checked Float :=
    Json.checkDecimal name ((Json.field? fields name).getD (.float 0.0))
  let services := checkList "services" ((Json.field? fields "services").getD (.array []))
  let build service services ip mac id version country city latitude longitude : Record :=
    ⟨service, services, ip, mac, id, version, country, city, latitude, longitude, lastSeen,
      serviceTime⟩
  (((((((((((text "service").map build).apply services).apply (text "ip_address")).apply
    (text "mac_address")).apply (text "deployment_id")).apply (text "version")).apply
    (text "country")).apply (text "city")).apply (coordinate "latitude")).apply
    (coordinate "longitude"))

end Record

end Census
