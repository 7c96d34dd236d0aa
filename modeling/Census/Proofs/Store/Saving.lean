import Census.Proofs.Time.Calendar
import Census.Store.Basic

/-! What the store makes of a record. Either the database keeps exactly its row and nothing fails,
or it keeps none and the store fails to save: a failed insertion is rolled back once, and whatever
failed first is among the causes of the failure. -/
namespace Census

namespace FailureKind

theorem isA_invalidEvent_of_database {k : FailureKind} (h : k.isA .database = true) :
    k.isA .invalidEvent = false := by
  cases k <;> first | rfl | cases h

theorem isA_invalidEvent_of_textEncoding {k : FailureKind} (h : k.isA .textEncoding = true) :
    k.isA .invalidEvent = false := by
  cases k <;> first | rfl | cases h

end FailureKind

namespace Failure

theorem causes_of_foreign {f : Failure} (h : f.isA .database = true ∨ f.isA .textEncoding = true) :
    f.causes = [] := by
  cases f with
  | outside kind text => rfl
  | _ => rcases h with h | h <;> cases h

theorem find?_invalidEvent_of_foreign {f : Failure}
    (h : f.isA .database = true ∨ f.isA .textEncoding = true) : f.find? .invalidEvent = none := by
  have hkind : f.kind.isA .invalidEvent = false :=
    h.elim FailureKind.isA_invalidEvent_of_database FailureKind.isA_invalidEvent_of_textEncoding
  simp [find?, causes_of_foreign h, hkind]

end Failure

namespace Store

/-- A database fails in kinds of its own; an insertion also where a text has no encoding. -/
structure Database.Usual (db : Database) : Prop where
  connect : ∀ f, db.connect = some f → f.isA .database = true
  insert : ∀ f, db.insert = some f → f.isA .database = true ∨ f.isA .textEncoding = true
  commit : ∀ f, db.commit = some f → f.isA .database = true
  rollback : ∀ f, db.rollback = some f → f.isA .database = true

def Database.refuses (db : Database) : Bool :=
  db.connect.isNone && db.insert.any isInvalidEvent

def Database.fails (db : Database) : Bool :=
  db.connect.isSome || db.insert.isSome || db.commit.isSome

theorem Database.fails_of_refuses {db : Database} (h : db.refuses = true) : db.fails = true := by
  unfold refuses at h
  unfold fails
  cases hinsert : db.insert with
  | none => simp [hinsert] at h
  | some f => simp

def Database.first? (db : Database) : Option Failure :=
  db.connect.or (db.insert.or db.commit)

def Database.Faults (db : Database) : Prop :=
  db.connect = none ∧
    ∃ f, db.insert = some f ∧ (f.isA .data = true ∨ f.isA .textEncoding = true)

theorem Database.refuses_iff {db : Database} : db.refuses = true ↔ db.Faults := by
  simp [refuses, Faults, isInvalidEvent, Option.any_eq_true]

/-- The rows that are kept after some events, given those that were inserted since the last
commit or rollback. -/
def kept (db : Database) : List Statement → List Event → List Statement
  | _, [] => []
  | rows, .insert s :: rest => kept db (if db.insert.isNone then rows ++ [s] else rows) rest
  | rows, .commit :: rest => (if db.commit.isNone then rows else []) ++ kept db [] rest
  | _, .rollback :: rest => kept db [] rest
  | rows, _ :: rest => kept db rows rest

variable {db : Database} {now : Time.Moment} {r : Record}

section Steps

theorem undo_eq (h : db.Usual) (f : Failure) :
    undo db f = ⟨[.rollback], .error (match db.rollback with
      | none => f
      | some undone => .rollback f undone)⟩ := by
  cases hback : db.rollback with
  | none => simp [undo, hback, Bind.bind, Traced.bind, Traced.emit, Traced.fail]
  | some undone =>
    simp [undo, hback, Bind.bind, Traced.bind, Traced.emit, Traced.fail, isDatabaseFailure,
      h.rollback undone hback]

theorem insert_of_failure (h : db.Usual) {f : Failure} (hf : db.insert = some f) (s : Statement) :
    insert db s = ⟨[.insert s, .rollback], (undo db (saveFailure f)).result⟩ := by
  have hcaught := h.insert f hf
  rw [undo_eq h]
  simp [insert, undo_eq h, hf, hcaught, isDatabaseFailure, Bind.bind, Traced.bind, Traced.orElse,
    Traced.emit, Traced.attempt, Traced.fail]

theorem insert_of_no_failure (h : db.Usual) (hf : db.insert = none) (s : Statement) :
    insert db s = ⟨[.insert s, .commit],
      match db.commit with
      | none => .ok ()
      | some f => .error (.unsaved f)⟩ := by
  cases hcommit : db.commit with
  | none =>
    simp [insert, hf, hcommit, Bind.bind, Traced.bind, Traced.orElse, Traced.emit, Traced.attempt,
      Traced.pure]
  | some f =>
    simp [insert, hf, hcommit, Bind.bind, Traced.bind, Traced.orElse, Traced.emit, Traced.attempt,
      Traced.pure, Traced.fail, isDatabaseFailure, h.commit f hcommit]

theorem save_of_identified (h : db.Usual) (hid : ¬ (r.ipAddress = "" ∧ r.deploymentId = "")) :
    save db now r =
      match db.connect with
      | some f => ⟨[.pool], .error (.unsaved f)⟩
      | none =>
        ⟨.pool :: (insert db (insertStatement now r)).events,
          (insert db (insertStatement now r)).result⟩ := by
  cases hconnect : db.connect with
  | none => simp [save, hid, hconnect, Bind.bind, Traced.bind, Traced.emit]
  | some f =>
    simp [save, hid, hconnect, Bind.bind, Traced.bind, Traced.emit, Traced.fail,
      isDatabaseFailure, h.connect f hconnect]

end Steps

/-- The ways in which the save of a record may go, each with its events and its end. -/
inductive Course (db : Database) (s : Statement) : Traced Unit → Prop
  | unconnected {f : Failure} (hconnect : db.connect = some f) :
    Course db s ⟨[.pool], .error (.unsaved f)⟩
  | undone {f : Failure} (hconnect : db.connect = none) (hinsert : db.insert = some f)
      (hback : db.rollback = none) :
    Course db s ⟨[.pool, .insert s, .rollback], .error (saveFailure f)⟩
  | stuck {f undone : Failure} (hconnect : db.connect = none) (hinsert : db.insert = some f)
      (hback : db.rollback = some undone) :
    Course db s ⟨[.pool, .insert s, .rollback], .error (.rollback (saveFailure f) undone)⟩
  | uncommitted {f : Failure} (hconnect : db.connect = none) (hinsert : db.insert = none)
      (hcommit : db.commit = some f) :
    Course db s ⟨[.pool, .insert s, .commit], .error (.unsaved f)⟩
  | committed (hconnect : db.connect = none) (hinsert : db.insert = none)
      (hcommit : db.commit = none) :
    Course db s ⟨[.pool, .insert s, .commit], .ok ()⟩

theorem course_save (h : db.Usual) (now : Time.Moment)
    (hid : ¬ (r.ipAddress = "" ∧ r.deploymentId = "")) :
    Course db (insertStatement now r) (save db now r) := by
  rw [save_of_identified h hid]
  cases hconnect : db.connect with
  | some f => exact .unconnected hconnect
  | none =>
    cases hinsert : db.insert with
    | some f =>
      simp only [insert_of_failure h hinsert, undo_eq h]
      cases hback : db.rollback with
      | none => exact .undone hconnect hinsert hback
      | some undone => exact .stuck hconnect hinsert hback
    | none =>
      simp only [insert_of_no_failure h hinsert]
      cases hcommit : db.commit with
      | some f => exact .uncommitted hconnect hinsert hcommit
      | none => exact .committed hconnect hinsert hcommit

structure Tells (f : Failure) (refused : Bool) : Prop where
  saving : f.isA .saving = true
  cause : (f.find? .invalidEvent).isSome = refused

theorem Tells.rollback {f : Failure} {refused : Bool} (h : Tells f refused) (undone : Failure) :
    Tells (.rollback f undone) refused where
  saving := rfl
  cause := by
    rw [← h.cause]
    rfl

theorem tells_unsaved {f : Failure} (h : f.isA .database = true ∨ f.isA .textEncoding = true) :
    Tells (.unsaved f) false where
  saving := rfl
  cause := by
    have hcause : (f.unsaved).find? .invalidEvent = f.find? .invalidEvent := rfl
    rw [hcause, Failure.find?_invalidEvent_of_foreign h]
    rfl

theorem tells_saveFailure {f : Failure} (h : f.isA .database = true ∨ f.isA .textEncoding = true) :
    Tells (saveFailure f) (isInvalidEvent f) := by
  unfold saveFailure
  cases hinvalid : isInvalidEvent f with
  | false => simpa using tells_unsaved h
  | true => exact ⟨rfl, rfl⟩

theorem mem_causes_saveFailure (f : Failure) : f ∈ (saveFailure f).causes := by
  unfold saveFailure
  split <;> simp [Failure.causes]

namespace Course

variable {s : Statement} {t : Traced Unit}

theorem kept_eq (h : Course db s t) : kept db [] t.events = if db.fails then [] else [s] := by
  cases h <;> simp [kept, Database.fails, *]

theorem result_iff (h : Course db s t) : t.result = .ok () ↔ db.fails = false := by
  cases h <;> simp [Database.fails, *]

theorem tells (h : Course db s t) (hdb : db.Usual) {e : Failure} (he : t.result = .error e) :
    Tells e db.refuses := by
  -- a record is refused exactly where its insertion fails and lies in the record
  have hinserted : ∀ f, db.connect = none → db.insert = some f →
      Tells (saveFailure f) db.refuses := by
    intro f hconnect hinsert
    have hrefuses : db.refuses = isInvalidEvent f := by simp [Database.refuses, hconnect, hinsert]
    rw [hrefuses]
    exact tells_saveFailure (hdb.insert f hinsert)
  cases h with
  | @unconnected f hconnect =>
    cases he
    simpa [Database.refuses, hconnect] using tells_unsaved (.inl (hdb.connect f hconnect))
  | undone hconnect hinsert _ =>
    cases he
    exact hinserted _ hconnect hinsert
  | @stuck f undone hconnect hinsert _ =>
    cases he
    exact (hinserted f hconnect hinsert).rollback undone
  | @uncommitted f _ hinsert hcommit =>
    cases he
    simpa [Database.refuses, hinsert] using tells_unsaved (.inl (hdb.commit f hcommit))
  | committed _ _ _ => cases he

theorem exists_cause (h : Course db s t) {e : Failure} (he : t.result = .error e) :
    ∃ f, db.first? = some f ∧ f ∈ e.causes := by
  cases h with
  | @unconnected f hconnect =>
    cases he
    exact ⟨f, by simp [Database.first?, hconnect], List.mem_cons_self⟩
  | @undone f hconnect hinsert _ =>
    cases he
    exact ⟨f, by simp [Database.first?, hconnect, hinsert], mem_causes_saveFailure f⟩
  | @stuck f _ hconnect hinsert _ =>
    cases he
    exact ⟨f, by simp [Database.first?, hconnect, hinsert],
      List.mem_cons_of_mem _ (mem_causes_saveFailure f)⟩
  | @uncommitted f hconnect hinsert hcommit =>
    cases he
    exact ⟨f, by simp [Database.first?, hconnect, hinsert, hcommit], List.mem_cons_self⟩
  | committed _ _ _ => cases he

theorem cause_eq (h : Course db s t) {e : Failure} (he : t.result = .error e)
    (hother : db.connect.isSome = true ∨ db.insert = none) : e.cause? = db.first? := by
  cases h with
  | unconnected hconnect =>
    cases he
    simp [Database.first?, hconnect, Failure.cause?]
  | undone hconnect hinsert _ => simp [hconnect, hinsert] at hother
  | stuck hconnect hinsert _ => simp [hconnect, hinsert] at hother
  | uncommitted hconnect hinsert hcommit =>
    cases he
    simp [Database.first?, hconnect, hinsert, hcommit, Failure.cause?]
  | committed _ _ _ => cases he

end Course

/-- A record is kept once if nothing fails; otherwise it is not kept, and the failure tells whether
the record was refused. -/
theorem save_result (h : db.Usual) (now : Time.Moment) {r : Record} (hid : r.ipAddress ≠ "") :
    kept db [] (save db now r).events = (if db.fails then [] else [insertStatement now r]) ∧
      match (save db now r).result with
      | .ok _ => db.fails = false
      | .error f => db.fails = true ∧ Tells f db.refuses := by
  have hcourse := course_save h now fun hnobody => hid hnobody.1
  refine ⟨hcourse.kept_eq, ?_⟩
  have hiff := hcourse.result_iff
  cases hresult : (save db now r).result with
  | ok _ => exact hiff.mp hresult
  | error f =>
    rw [hresult] at hiff
    exact ⟨by simpa using hiff, hcourse.tells h hresult⟩

structure Blames (db : Database) (e : Failure) : Prop where
  saving : e.isA .saving = true
  chain : ∃ f, db.first? = some f ∧ f ∈ e.causes
  direct : db.connect.isSome = true ∨ db.insert = none → e.cause? = db.first?
  fault : (e.find? .invalidEvent).isSome = true ↔ db.Faults

/-- A record that nothing identifies is refused without the database. Any other is inserted and
committed once if nothing fails, and the failure of its save blames what failed first, whatever
became of the rollback. -/
theorem save_discipline (h : db.Usual) (now : Time.Moment) (r : Record) :
    (r.ipAddress = "" ∧ r.deploymentId = "" →
      save db now r = ⟨[], .error .unidentified⟩ ∧ Failure.unidentified.isA .saving = true) ∧
    (¬ (r.ipAddress = "" ∧ r.deploymentId = "") →
      Course db (insertStatement now r) (save db now r) ∧
      ((save db now r).result = .ok () ↔ db.fails = false) ∧
      ∀ e, (save db now r).result = .error e → Blames db e) := by
  constructor
  · intro hnobody
    refine ⟨?_, rfl⟩
    simp [save, hnobody, Bind.bind, Traced.bind, Traced.fail]
  · intro hid
    have hcourse := course_save h now hid
    refine ⟨hcourse, hcourse.result_iff, fun e he => ?_⟩
    have htells := hcourse.tells h he
    refine ⟨htells.saving, hcourse.exists_cause he, hcourse.cause_eq he, ?_⟩
    rw [htells.cause, Database.refuses_iff]

def remote : Record :=
  ⟨"s", [], "", "", "d", "1", "", "", 0.0, 0.0, none, none⟩

def brokenDatabase : Database where
  insert := some (.outside .textRepresentation "bad input")
  rollback := some (.outside .databaseOperation "gone")

def beginning : Time.Moment :=
  ⟨0, none, Time.Moment.inRange_zero, Time.Moment.offset_lt_none⟩

theorem save_discipline_broken : brokenDatabase.Usual ∧
    ∃ e, (save brokenDatabase beginning remote).result = .error e ∧ e.kind = .rollback ∧
      Blames brokenDatabase e ∧ (e.find? .invalidEvent).isSome = true := by
  have husual : brokenDatabase.Usual := by
    refine ⟨nofun, ?_, nofun, ?_⟩ <;> rintro f ⟨⟩
    · exact .inl (by decide)
    · decide
  have hblames := ((save_discipline husual beginning remote).2 (by decide)).2.2
  refine ⟨husual, _, rfl, rfl, hblames _ rfl, (hblames _ rfl).fault.mpr ⟨rfl, _, rfl, ?_⟩⟩
  exact .inl (by decide)

end Store
end Census
