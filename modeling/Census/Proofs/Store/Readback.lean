import Census.Proofs.Time.Calendar
import Census.Store.Basic

/-! Records read back from the database. The text of an insertion says which value goes to which
column; the row that it makes of a saved record reads as the record again, and the key under which
the queries tell its deployment apart is the record's own. -/
namespace Census

namespace Cell

/-- The first of two values, or the second in the place of null. -/
def coalesce : Cell → Cell → Cell
  | plain .null, other => other
  | c, _ => c

section Reading

variable (name s : String)

theorem checkText_string : checkText name (some (.plain (.string s))) = .ok s := by
  by_cases h : s = ""
  · subst h
    rfl
  · simp [checkText, isEmpty, Json.isEmpty, h, Json.checkText]

/-- An empty text comes back although null was put in its place. -/
theorem checkText_nullable : checkText name (some (Store.nullable s)) = .ok s := by
  unfold Store.nullable
  split
  · rename_i h
    subst h
    rfl
  · exact checkText_string name s

theorem checkCoordinate_float (x : Float) :
    checkCoordinate name (some (.plain (.float x))) = .ok (if x == 0.0 then 0.0 else x) := by
  unfold checkCoordinate
  dsimp only
  by_cases h : (x == 0.0) = true
  · simp [isEmpty, Json.isEmpty, Json.float, Number.isZero, h]
  · simp [isEmpty, Json.isEmpty, Json.float, Number.isZero, h, Json.checkDecimal]

theorem checkMoment_momentOrNull (m : Option Time.Moment) :
    checkMoment name (some (Store.momentOrNull m)) = .ok m := by
  cases m <;> rfl

end Reading

end Cell

/-- The key by which the queries tell deployments apart: the id, or the address where it is null. -/
def Row.deploymentKey (row : Row) : Cell :=
  Cell.coalesce ((row.lookup "deployment_id").getD (.plain .null))
    ((row.lookup "ip_address").getD (.plain .null))

namespace Store

def insertions (events : List Event) : List Statement :=
  events.filterMap fun
    | .insert st => some st
    | _ => none

/-- The record as its row is read: services belong to other rows, and zeros have no sign. -/
def readback (now : Time.Moment) (r : Record) : Record :=
  { r with
    services := []
    latitude := if r.latitude == 0.0 then 0.0 else r.latitude
    longitude := if r.longitude == 0.0 then 0.0 else r.longitude
    lastSeen := some (r.lastSeen.getD now) }

section Insertions

def listItems (cs : List Char) : List (List Char) :=
  (cs.splitOn ',').map fun item => item.dropWhile (· = ' ')

def placeholder? (item : List Char) : Option String := do
  let rest ← "%(".toList.isPrefixOf? item
  let name ← ")s".toList.isSuffixOf? rest
  return String.ofList name

/-- The columns that a text inserts into, each with the parameter that gives its value. -/
def columns? (text : String) : Option (List (String × String)) := do
  let rest ← "INSERT INTO telemetry (".toList.isPrefixOf? text.toList
  let (columns, rest) := rest.span (· ≠ ')')
  let values ← ") VALUES (".toList.isPrefixOf? rest
  let values ← ")".toList.isSuffixOf? values
  let columns := (listItems columns).map String.ofList
  let names ← (listItems values).mapM placeholder?
  if columns.length = names.length then return columns.zip names else none

/-- The row that a statement makes: its columns, with the values bound to their parameters. -/
def Statement.row? (st : Statement) : Option Row := do
  (← columns? st.text).mapM fun (column, name) => (st.parameters.lookup name).map (column, ·)

theorem columns?_insertText : columns? insertText = some
    (["ip_address", "mac_address", "deployment_id", "longitude", "latitude", "mg_version",
      "service", "time", "country", "city", "service_time"].map fun column => (column, column)) := by
  unfold columns? insertText
  -- the characters of a literal are compared one by one only once they stand in a list
  repeat rw [String.toList_append]
  repeat rw [String.toList_ofList]
  decide +kernel

theorem row?_insertStatement (now : Time.Moment) (r : Record) :
    (insertStatement now r).row? = some (insertStatement now r).parameters := by
  have htext : (insertStatement now r).text = insertText := rfl
  unfold Statement.row?
  rw [htext, columns?_insertText]
  rfl

end Insertions

/-- Reader and writer name the same columns. -/
theorem ofRow_insertStatement (now : Time.Moment) (r : Record) :
    Record.ofRow (insertStatement now r).parameters = .ok (readback now r) := by
  have hcolumns : Record.ofRow (insertStatement now r).parameters =
      (((((((((((((Cell.checkText "service" (some (.plain (.string r.service)))).map
        Record.mk).apply (.ok [])).apply
        (Cell.checkText "ip_address" (some (.plain (.string r.ipAddress))))).apply
        (Cell.checkText "mac_address" (some (nullable r.macAddress)))).apply
        (Cell.checkText "deployment_id" (some (nullable r.deploymentId)))).apply
        (Cell.checkText "version" (some (.plain (.string r.version))))).apply
        (Cell.checkText "country" (some (.plain (.string r.country))))).apply
        (Cell.checkText "city" (some (.plain (.string r.city))))).apply
        (Cell.checkCoordinate "latitude" (some (.plain (.float r.latitude))))).apply
        (Cell.checkCoordinate "longitude" (some (.plain (.float r.longitude))))).apply
        (Cell.checkMoment "last_seen" (some (.moment (r.lastSeen.getD now))))).apply
        (Cell.checkMoment "service_time" (some (momentOrNull r.serviceTime)))).toExcept .fields :=
    rfl
  rw [hcolumns]
  simp only [Cell.checkText_string, Cell.checkText_nullable, Cell.checkCoordinate_float,
    Cell.checkMoment_momentOrNull]
  rfl

theorem deploymentKey_insertStatement (now : Time.Moment) (r : Record) :
    Row.deploymentKey (insertStatement now r).parameters =
      .plain (.string r.deploymentKey) := by
  have hcolumns : Row.deploymentKey (insertStatement now r).parameters =
      Cell.coalesce (nullable r.deploymentId) (.plain (.string r.ipAddress)) := rfl
  rw [hcolumns]
  unfold nullable Record.deploymentKey
  split <;> rfl

section Save

variable {db : Database} {now : Time.Moment} {r : Record}

theorem events_of_insert {st : Statement} (h : (insert db st).result = .ok ()) :
    (insert db st).events = [.insert st, .commit] := by
  cases hinsert : db.insert with
  | none =>
    cases hcommit : db.commit <;>
      simp [insert, hinsert, hcommit, Bind.bind, Traced.bind, Traced.orElse, Traced.emit,
        Traced.attempt, Traced.pure, Traced.fail]
  | some f =>
    have hfailed : ∃ e, (insert db st).result = .error e := by
      cases hcaught : isDatabaseFailure f || f.isA .textEncoding with
      | false =>
        exact ⟨f, by simp [insert, hinsert, hcaught, Bind.bind, Traced.bind, Traced.orElse,
          Traced.emit, Traced.attempt, Traced.fail]⟩
      | true =>
        cases hback : db.rollback <;>
          simp [insert, undo, hinsert, hcaught, hback, Bind.bind, Traced.bind, Traced.orElse,
            Traced.emit, Traced.attempt, Traced.fail]
    obtain ⟨e, he⟩ := hfailed
    rw [he] at h
    cases h

theorem insertions_of_save (h : (save db now r).result = .ok ()) :
    r.deploymentKey ≠ "" ∧ insertions (save db now r).events = [insertStatement now r] := by
  by_cases hid : r.ipAddress = "" ∧ r.deploymentId = ""
  · have hfailed : (save db now r).result = .error .unidentified := by
      unfold save
      rw [if_pos hid]
      rfl
    rw [hfailed] at h
    cases h
  · have hkey : r.deploymentKey ≠ "" := by
      unfold Record.deploymentKey
      split
      · rename_i hnone
        exact fun hip => hid ⟨hip, hnone⟩
      · assumption
    refine ⟨hkey, ?_⟩
    cases hconnect : db.connect with
    | some f =>
      have hfailed : ∃ e, (save db now r).result = .error e := by
        simp [save, hid, hconnect, Bind.bind, Traced.bind, Traced.emit, Traced.fail]
      obtain ⟨e, he⟩ := hfailed
      rw [he] at h
      cases h
    | none =>
      have hsave : save db now r = ⟨.pool :: (insert db (insertStatement now r)).events,
          (insert db (insertStatement now r)).result⟩ := by
        simp [save, hid, hconnect, Bind.bind, Traced.bind, Traced.emit]
      rw [hsave] at h
      rw [hsave, events_of_insert h]
      rfl

end Save

/-- A record that was saved reads back from the row that its insertion makes as it was, but for its
services and the signs of zeros; by that row as well as by the record that is read back its
deployment is told apart under the key of the record, which is not empty. -/
theorem ofRow_of_save {db : Database} {now m : Time.Moment} {r : Record}
    (hseen : r.lastSeen = some m) (hsaved : (save db now r).result = .ok ()) :
    ∃ st row r', insertions (save db now r).events = [st] ∧ st.row? = some row ∧
      Record.ofRow row = .ok r' ∧
      r' = { r with
        services := []
        latitude := if r.latitude == 0.0 then 0.0 else r.latitude
        longitude := if r.longitude == 0.0 then 0.0 else r.longitude } ∧
      Row.deploymentKey row = .plain (.string r.deploymentKey) ∧
      r.deploymentKey ≠ "" ∧ r'.deploymentKey = r.deploymentKey := by
  obtain ⟨hkey, hinserted⟩ := insertions_of_save hsaved
  refine ⟨_, _, _, hinserted, row?_insertStatement now r, ofRow_insertStatement now r, ?_,
    deploymentKey_insertStatement now r, hkey, rfl⟩
  unfold readback
  rw [hseen]
  rfl

def midnight : Time.Moment := ⟨0, some 0, Time.Moment.inRange_zero, Time.Moment.offset_lt_utc⟩

def nameless : Record where
  service := "mfx"
  services := ["mfx", "ui"]
  ipAddress := "1.2.3.4"
  macAddress := ""
  deploymentId := ""
  version := "0.1"
  country := "Kenya"
  city := ""
  latitude := -0.0
  longitude := 36.81
  lastSeen := some ⟨250000, some 0, by decide, Time.Moment.offset_lt_utc⟩
  serviceTime := none

theorem ofRow_nameless : ∃ st row,
    insertions (save {} midnight nameless).events = [st] ∧ st.row? = some row ∧
      Record.ofRow row = .ok { nameless with services := [], latitude := 0.0 } ∧
      Row.deploymentKey row = .plain (.string "1.2.3.4") := by
  obtain ⟨st, row, r', hinserted, hrow, hread, hr, hkey, -, -⟩ :=
    @ofRow_of_save {} midnight _ nameless rfl rfl
  have hsame : r' = { nameless with services := [], latitude := 0.0 } := by
    rw [hr]
    decide +kernel
  rw [hsame] at hread
  exact ⟨st, row, hinserted, hrow, hread, hkey⟩

end Store
end Census
