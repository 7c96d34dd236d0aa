import Census.Web.Server

/-! Reports are held to a schema. What conforms to it is handed on as it was sent, and all else is
turned away before anything is kept, with one fault for each field that offends. -/
namespace Census

open Text Time

inductive Demand
  /-- A text with a character that is not blank. -/
  | told
  | text
  /-- A moment, if anything; null is nothing. -/
  | moment
deriving DecidableEq

namespace Demand

def accepts : Demand → Option Json → Bool
  | told, some (.string s) => s.toList.any fun c => !isBlank c
  | told, _ => false
  | text, none => true
  | text, some (.string _) => true
  | text, some _ => false
  | moment, none => true
  | moment, some .null => true
  | moment, some j => (Moment.ofJson? j).isSome

def complaint : Demand → Option Json → FaultKind
  | told, none => .missing
  | told, some (.string _) => .blank
  | told, some _ => .text
  | text, _ => .text
  | moment, _ => .moment

end Demand

theorem Checked.faultsOf_map {α β : Type} (f : α → β) (c : Checked α) :
    (c.map f).faultsOf = c.faultsOf := by
  cases c <;> rfl

namespace Submission

/-- The fields of a report, in the order in which their faults are told. -/
def schema : List (String × Demand) :=
  [("service", .told), ("ip_address", .told), ("mac_address", .text), ("deployment_id", .text),
    ("magistrala_version", .told), ("last_seen", .moment)]

section Fields

variable (fields : List (String × Json))

def Conforms : Prop :=
  ∀ entry ∈ schema, entry.2.accepts (Json.field? fields entry.1) = true

instance : Decidable (Conforms fields) :=
  inferInstanceAs
    (Decidable (∀ entry ∈ schema, entry.2.accepts (Json.field? fields entry.1) = true))

def offending : List (String × Demand) :=
  schema.filter fun entry => !entry.2.accepts (Json.field? fields entry.1)

theorem offending_eq_nil : offending fields = [] ↔ Conforms fields := by
  simp [offending, Conforms, List.filter_eq_nil_iff]

def textOf (name : String) : String :=
  match Json.field? fields name with
  | some (.string s) => s
  | _ => ""

def momentOf (name : String) : Option Moment :=
  (Json.field? fields name).bind Moment.ofJson?

def saying : Submission where
  service := textOf fields "service"
  ipAddress := textOf fields "ip_address"
  macAddress := textOf fields "mac_address"
  deploymentId := textOf fields "deployment_id"
  version := textOf fields "magistrala_version"
  lastSeen := momentOf fields "last_seen"

def faultOf (entry : String × Demand) : Fault :=
  ⟨entry.2.complaint (Json.field? fields entry.1), [.name entry.1]⟩

/-- A value that hangs on a demand: without it there is one fault, in the field asked for. -/
def demanded {α : Type} (demand : Demand) (name : String) (value : α) : Checked α :=
  if demand.accepts (Json.field? fields name) then .ok value
  else .error [faultOf fields (name, demand)]

theorem demanded_of_accepts {α : Type} {demand : Demand} {name : String}
    (h : demand.accepts (Json.field? fields name) = true) (value : α) :
    demanded fields demand name value = .ok value :=
  if_pos h

theorem required_eq (name : String) :
    required fields name = demanded fields .told name (textOf fields name) := by
  unfold required demanded textOf faultOf
  cases Json.field? fields name with
  | none => rfl
  | some j =>
    cases j with
    | string s =>
      have haccepts : Demand.told.accepts (some (.string s)) = !isAllBlank s :=
        List.not_all_eq_any_not.symm
      cases hblank : isAllBlank s <;> simp only [haccepts, hblank] <;> rfl
    | _ => rfl

theorem optional_eq (name : String) :
    optional fields name = demanded fields .text name (textOf fields name) := by
  unfold optional demanded textOf faultOf
  cases Json.field? fields name with
  | none => rfl
  | some j => cases j <;> rfl

theorem optionalMoment_eq (name : String) :
    optionalMoment fields name = demanded fields .moment name (momentOf fields name) := by
  unfold optionalMoment demanded momentOf faultOf
  cases Json.field? fields name with
  | none => rfl
  | some j =>
    cases j with
    | null => rfl
    | _ =>
      simp only [Demand.accepts, Option.bind_some]
      split <;> rename_i hmoment <;> simp only [hmoment] <;> rfl

theorem faultsOf_demanded {α : Type} (demand : Demand) (name : String) (value : α) :
    (demanded fields demand name value).faultsOf =
      ([(name, demand)].filter fun entry =>
        !entry.2.accepts (Json.field? fields entry.1)).map (faultOf fields) := by
  unfold demanded
  cases h : demand.accepts (Json.field? fields name) <;> simp [h, Checked.faultsOf]

/-- The faults of a report stand against its offending fields, one against each. -/
theorem faultsOf_ofFields :
    (ofFields fields).faultsOf = (offending fields).map (faultOf fields) := by
  simp only [ofFields, Checked.faultsOf_apply, Checked.faultsOf_map, required_eq, optional_eq,
    optionalMoment_eq, faultsOf_demanded, ← List.map_append, ← List.filter_append]
  rfl

theorem ofFields_of_conforms (h : Conforms fields) : ofFields fields = .ok (saying fields) := by
  simp only [Conforms, schema, List.forall_mem_cons] at h
  obtain ⟨hservice, haddress, hhardware, hdeployment, hversion, hseen, -⟩ := h
  simp only [ofFields, required_eq, optional_eq, optionalMoment_eq, demanded_of_accepts,
    hservice, haddress, hhardware, hdeployment, hversion, hseen]
  rfl

theorem ofFields_of_not_conforms (h : ¬Conforms fields) :
    ofFields fields = .error ((offending fields).map (faultOf fields)) := by
  have hfaults := faultsOf_ofFields fields
  cases hread : ofFields fields with
  | ok s =>
    rw [hread] at hfaults
    exact absurd ((offending_eq_nil fields).mp (List.map_eq_nil_iff.mp hfaults.symm)) h
  | error faults =>
    rw [hread] at hfaults
    exact congrArg Checked.error hfaults

/-- What is recorded of a report before its place and the time of its arrival are known. -/
def recordOf : Record where
  service := textOf fields "service"
  services := []
  ipAddress := textOf fields "ip_address"
  macAddress := textOf fields "mac_address"
  deploymentId := textOf fields "deployment_id"
  version := textOf fields "magistrala_version"
  country := ""
  city := ""
  latitude := 0.0
  longitude := 0.0
  lastSeen := none
  serviceTime := momentOf fields "last_seen"

end Fields

def faultCount : Option Json → Nat
  | some (.object fields) => (offending fields).length
  | _ => 1

theorem ofBytes_of_conforms {bytes : List UInt8} {fields : List (String × Json)}
    (hbytes : Json.ofBytes? bytes = some (.object fields)) (h : Conforms fields) :
    ofBytes bytes = .ok (saying fields) := by
  unfold ofBytes
  rw [hbytes]
  exact ofFields_of_conforms fields h

theorem ofBytes_of_not_conforms {bytes : List UInt8}
    (h : ∀ fields, Json.ofBytes? bytes = some (.object fields) → ¬Conforms fields) :
    ∃ faults, ofBytes bytes = .error faults ∧
      faults.length = faultCount (Json.ofBytes? bytes) := by
  unfold ofBytes
  cases hbytes : Json.ofBytes? bytes with
  | none => exact ⟨_, rfl, rfl⟩
  | some j =>
    cases j with
    | object fields =>
      refine ⟨_, ofFields_of_not_conforms fields (h fields hbytes), ?_⟩
      exact List.length_map (faultOf fields)
    | _ => exact ⟨_, rfl, rfl⟩

end Submission

namespace Web.Server

open Submission

def reportTo (save : Record → Store.Traced Record) (r : Request) : Store.Traced Response :=
  match readReport r.headers r.body with
  | .error refusal => return refusal.response
  | .ok s => do
    let _ ← save s.toRecord
    return .json 201 (.object [])

/-- In whatever way records are kept, the request has this one kept and is then acknowledged. -/
def HandsOn (r : Request) (record : Record) : Prop :=
  ∀ save, reportTo save r = do
    let _ ← save record
    return .json 201 (.object [])

section Reports

variable {r : Request}

/-- A way to keep records that fails at one of them tells it from the others. -/
theorem HandsOn.unique {record other : Record} (h : HandsOn r record) (hother : HandsOn r other) :
    other = record := by
  classical
  apply Decidable.byContradiction
  intro hne
  let save (kept : Record) : Store.Traced Record :=
    if kept = record then .fail .queryLimit else .pure kept
  have hsame := congrArg Store.Traced.result ((h save).symm.trans (hother save))
  have hfails : save record = .fail .queryLimit := if_pos rfl
  have hkeeps : save other = .pure other := if_neg hne
  rw [hfails, hkeeps] at hsame
  cases hsame

theorem not_handsOn_of_response {response : Response}
    (h : ∀ save, reportTo save r = pure response) (record : Record) : ¬HandsOn r record := by
  intro hands
  have hsame := congrArg Store.Traced.result
    ((h fun _ => .fail .queryLimit).symm.trans (hands fun _ => .fail .queryLimit))
  cases hsame

section Typed

variable (htype : Text.occursIn mediaType (header r.headers "content-type").toList = true)

include htype

theorem handsOn_of_submission {s : Submission} (hs : ofBytes r.body = .ok s) :
    HandsOn r s.toRecord := by
  intro save
  simp only [reportTo, readReport, htype, hs, if_true]

theorem reportTo_of_faults {faults : List Fault} (hs : ofBytes r.body = .error faults)
    (save : Record → Store.Traced Record) :
    reportTo save r = pure (ReportRefusal.malformed faults.length).response := by
  simp only [reportTo, readReport, htype, hs, if_true]

end Typed

/-- A report is handed on exactly if its body is an object that conforms to the schema, and as the
record of what its fields say. All else is refused with the number of its faults, whatever records
are kept in. -/
theorem handsOn_iff_conforms
    (htype : Text.occursIn mediaType (header r.headers "content-type").toList = true) :
    (∀ p, report p r = reportTo (Intake.save p.locations p.database p.now) r) ∧
      (∀ record, HandsOn r record ↔ ∃ fields,
        Json.ofBytes? r.body = some (.object fields) ∧ Conforms fields ∧
          record = recordOf fields) ∧
      ((∀ record, ¬HandsOn r record) → ∀ save, reportTo save r =
        pure (.detail 400 ("malformed entity: " ++
          toString (faultCount (Json.ofBytes? r.body)) ++ " error(s)"))) := by
  refine ⟨fun p => rfl, ?accepted, ?refused⟩
  case accepted =>
    intro record
    constructor
    · intro hands
      by_cases hconforms : ∃ fields, Json.ofBytes? r.body = some (.object fields) ∧ Conforms fields
      · obtain ⟨fields, hbytes, hfields⟩ := hconforms
        have htold : HandsOn r (recordOf fields) :=
          handsOn_of_submission htype (ofBytes_of_conforms hbytes hfields)
        exact ⟨fields, hbytes, hfields, htold.unique hands⟩
      · obtain ⟨faults, hs, -⟩ := ofBytes_of_not_conforms fun fields hbytes hfields =>
          hconforms ⟨fields, hbytes, hfields⟩
        exact absurd hands (not_handsOn_of_response (reportTo_of_faults htype hs) record)
    · rintro ⟨fields, hbytes, hfields, rfl⟩
      exact handsOn_of_submission htype (ofBytes_of_conforms hbytes hfields)
  case refused =>
    intro hnone save
    obtain ⟨faults, hs, hcount⟩ := ofBytes_of_not_conforms fun fields hbytes hfields =>
      hnone _ (handsOn_of_submission htype (ofBytes_of_conforms hbytes hfields))
    rw [reportTo_of_faults htype hs, hcount]
    rfl

def sent (body : String) : Request where
  method := "POST"
  target := ⟨"http".toList, "testserver".toList, "/telemetry".toList, []⟩
  headers := [("content-type", "application/json; charset=utf-8")]
  body := body.toList.map fun c => c.toNat.toUInt8
  client := "testclient"

/-- The service is told twice, and a name that no field has once. -/
def restated : Request :=
  sent ("\x7b\"service\":\" \",\"ip_address\":\"10.0.0.1\",\"magistrala_version\":\"1\"," ++
    "\"version\":7,\"last_seen\":null,\"service\":\"mfx\"\x7d")

def misnamed : Request :=
  sent "\x7b\"service\":\"\\t\",\"ip_address\":4,\"version\":\"1\"\x7d"

set_option maxRecDepth 8192 in
theorem ofBytes?_restated : Json.ofBytes? restated.body = some (.object
    [("service", .string "mfx"), ("ip_address", .string "10.0.0.1"),
      ("magistrala_version", .string "1"), ("version", .int 7), ("last_seen", .null)]) :=
  rfl

set_option maxRecDepth 8192 in
theorem ofBytes?_misnamed : Json.ofBytes? misnamed.body = some (.object
    [("service", .string "\t"), ("ip_address", .int 4), ("version", .string "1")]) :=
  rfl

theorem handsOn_restated :
    HandsOn restated
        { service := "mfx", services := [], ipAddress := "10.0.0.1", macAddress := "",
          deploymentId := "", version := "1", country := "", city := "", latitude := 0.0,
          longitude := 0.0, lastSeen := none, serviceTime := none } ∧
      ∀ save, reportTo save misnamed = pure (.detail 400 "malformed entity: 3 error(s)") := by
  refine ⟨((handsOn_iff_conforms (by decide)).2.1 _).mpr ⟨_, ofBytes?_restated, by decide, rfl⟩, ?_⟩
  have hrefused := (handsOn_iff_conforms (r := misnamed) (by decide)).2
  rw [ofBytes?_misnamed] at hrefused
  refine hrefused.2 fun record hands => ?_
  obtain ⟨fields, hbytes, hfields, -⟩ := (hrefused.1 record).mp hands
  cases hbytes
  exact absurd hfields (by decide)

end Reports

end Web.Server
end Census
