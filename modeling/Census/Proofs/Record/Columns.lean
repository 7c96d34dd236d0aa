import Census.Proofs.Store.Readback
import Mathlib.Data.List.Forall2

/-! What the rows of the table hold. A column is missing, null or of its type, and a row of such columns
is always read as a record: what is null or missing reads as empty, zero or no moment. -/
namespace Census

open Time

namespace Cell

def ofText (s : String) : Cell :=
  .plain (.string s)

def ofFloat (x : Float) : Cell :=
  .plain (.float x)

def textOrNull (t : Option String) : Json :=
  (t.map Json.string).getD .null

def ofTexts (texts : List (Option String)) : Cell :=
  .plain (.array (texts.map textOrNull))

end Cell

/-- A column that holds a value of its type, or holds none because it is missing or null. -/
def Row.Holds {α : Type} (row : Row) (name : String) (cell : α → Cell) : Option α → Prop
  | none => row.lookup name = none ∨ row.lookup name = some (.plain .null)
  | some a => row.lookup name = some (cell a)

def present (texts : Option (List (Option String))) : List String :=
  (texts.getD []).filterMap fun t => t.filter fun s => s ≠ ""

theorem mem_present {texts : Option (List (Option String))} {s : String} :
    s ∈ present texts ↔ (∃ ts ∈ texts, some s ∈ ts) ∧ s ≠ "" := by
  cases texts <;> simp [present, Option.filter_eq_some_iff]

def orZero : Option Float → Float
  | none => 0.0
  | some x => if x == 0.0 then 0.0 else x

section Columns

variable {row : Row} {name field : String}

theorem checkText_of_holds {t : Option String} (h : row.Holds name .ofText t) :
    Cell.checkText field (row.lookup name) = .ok (t.getD "") := by
  cases t with
  | none =>
    rcases h with h | h
    · simp [h, Cell.checkText]
    · simp [h, Cell.checkText, Cell.isEmpty, Json.isEmpty]
  | some s =>
    have hcell : row.lookup name = some (.ofText s) := h
    rw [hcell]
    exact Cell.checkText_string field s

theorem checkCoordinate_of_holds {x : Option Float} (h : row.Holds name .ofFloat x) :
    Cell.checkCoordinate field (row.lookup name) = .ok (orZero x) := by
  cases x with
  | none =>
    rcases h with h | h
    · simp [h, Cell.checkCoordinate, orZero]
    · simp [h, Cell.checkCoordinate, Cell.isEmpty, Json.isEmpty, orZero]
  | some x =>
    have hcell : row.lookup name = some (.ofFloat x) := h
    rw [hcell]
    exact Cell.checkCoordinate_float field x

theorem checkMoment_of_holds {m : Option Moment} (h : row.Holds name .moment m) :
    Cell.checkMoment field (row.lookup name) = .ok m := by
  cases m with
  | none =>
    rcases h with h | h
    · simp [h, Cell.checkMoment]
    · simp [h, Cell.checkMoment]
  | some m =>
    have hcell : row.lookup name = some (.moment m) := h
    simp [hcell, Cell.checkMoment]

theorem filter_items (texts : List (Option String)) :
    (texts.map Cell.textOrNull).filter (fun j => !j.isEmpty) =
      (present (some texts)).map .string := by
  unfold present
  induction texts with
  | nil => rfl
  | cons t texts ih =>
    rw [Option.getD_some] at ih
    cases t with
    | none =>
      have hempty : (Cell.textOrNull none).isEmpty = true := rfl
      simpa [hempty] using ih
    | some s =>
      have hcell : Cell.textOrNull (some s) = .string s := rfl
      by_cases hs : s = ""
      · subst hs
        have hempty : (Json.string "").isEmpty = true := rfl
        simpa [hcell, hempty, Option.filter_some] using ih
      · have hempty : (Json.string s).isEmpty = false := by simpa [Json.isEmpty] using hs
        simpa [hcell, hempty, hs, Option.filter_some] using ih

theorem listed_of_holds {texts : Option (List (Option String))}
    (h : row.Holds name .ofTexts texts) :
    Cell.listed (row.lookup name) = .ok ((present texts).map .string) := by
  cases texts with
  | none =>
    rcases h with h | h
    · simp [h, Cell.listed, present]
    · simp [h, Cell.listed, Cell.isEmpty, Json.isEmpty, present]
  | some texts =>
    have hcell : row.lookup name = some (.ofTexts texts) := h
    rw [hcell, ← filter_items]
    cases texts with
    | nil => rfl
    | cons t texts => rfl

theorem checkItems_strings (place : Nat) (texts : List String) :
    Record.checkItems name place (texts.map .string) = .ok texts := by
  induction texts generalizing place with
  | nil => rfl
  | cons t texts ih => simp [Record.checkItems, ih, Checked.map, Checked.apply]

end Columns

structure DeploymentColumns where
  service : Option String
  services : Option (List (Option String))
  ipAddress : Option String
  macAddress : Option String
  deploymentId : Option String
  version : Option String
  country : Option String
  city : Option String
  latitude : Option Float
  longitude : Option Float
  time : Option Moment
  serviceTime : Option Moment

structure Row.OfDeployment (row : Row) (c : DeploymentColumns) : Prop where
  service : row.Holds "service" .ofText c.service
  services : row.Holds "services" .ofTexts c.services
  ipAddress : row.Holds "ip_address" .ofText c.ipAddress
  macAddress : row.Holds "mac_address" .ofText c.macAddress
  deploymentId : row.Holds "deployment_id" .ofText c.deploymentId
  version : row.Holds "mg_version" .ofText c.version
  country : row.Holds "country" .ofText c.country
  city : row.Holds "city" .ofText c.city
  latitude : row.Holds "latitude" .ofFloat c.latitude
  longitude : row.Holds "longitude" .ofFloat c.longitude
  time : row.Holds "time" .moment c.time
  serviceTime : row.Holds "service_time" .moment c.serviceTime

def DeploymentColumns.record (c : DeploymentColumns) : Record where
  service := c.service.getD ""
  services := present c.services
  ipAddress := c.ipAddress.getD ""
  macAddress := c.macAddress.getD ""
  deploymentId := c.deploymentId.getD ""
  version := c.version.getD ""
  country := c.country.getD ""
  city := c.city.getD ""
  latitude := orZero c.latitude
  longitude := orZero c.longitude
  lastSeen := c.time
  serviceTime := c.serviceTime

theorem Record.ofRow_of_columns {row : Row} {c : DeploymentColumns} (h : row.OfDeployment c) :
    Record.ofRow row = .ok c.record := by
  unfold Record.ofRow
  simp only [listed_of_holds h.services, checkText_of_holds h.service,
    checkText_of_holds h.ipAddress, checkText_of_holds h.macAddress,
    checkText_of_holds h.deploymentId, checkText_of_holds h.version,
    checkText_of_holds h.country, checkText_of_holds h.city,
    checkCoordinate_of_holds h.latitude, checkCoordinate_of_holds h.longitude,
    checkMoment_of_holds h.time, checkMoment_of_holds h.serviceTime,
    Bind.bind, Except.bind, checkItems_strings]
  rfl

theorem mapM_of_forall₂ {α β γ : Type} {R : α → β → Prop} {f : α → Except Failure γ} {g : β → γ}
    (hread : ∀ a b, R a b → f a = .ok (g b)) {as : List α} {bs : List β}
    (h : List.Forall₂ R as bs) : as.mapM f = .ok (bs.map g) := by
  induction h with
  | nil => rfl
  | cons hab _ ih =>
    simp only [List.mapM_cons, List.map_cons, hread _ _ hab, ih]
    rfl

end Census
