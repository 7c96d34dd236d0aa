import Mathlib.Data.List.Forall2
import Census.Inquiry.Basic

/-! What records show outside. Two operations are alike if they do the same to the database and end in
results that differ at most in what stays inside. Over databases whose records differ at most in that,
queries are alike. -/
namespace Census

namespace Record

def outside (r : Record) : Record :=
  { r with ipAddress := "", macAddress := "", deploymentId := "" }

theorem wire_outside (r : Record) : r.outside.wire = r.wire := rfl

theorem SameOutside.outside_eq {a b : Record} (h : a.SameOutside b) : a.outside = b.outside := by
  rw [← h]
  rfl

end Record

def Page.outside (p : Page) : Page :=
  ⟨p.metadata, p.records.map Record.outside⟩

theorem Page.toJson_outside (p : Page) : p.outside.toJson = p.toJson := by
  have hwires : (p.records.map Record.outside).map Record.wire = p.records.map Record.wire := by
    rw [List.map_map]
    exact List.map_congr_left fun r _ => r.wire_outside
  unfold toJson outside
  rw [hwires]

def QueryKind.outside : (kind : QueryKind) → kind.Result → kind.Result
  | .summary, s => s
  | .page, p => p.outside

def Answer.outside (a : Answer) : Answer :=
  ⟨a.kind, a.kind.outside a.result⟩

theorem Answer.of?_outside (kind : QueryKind) (a : Answer) :
    Answer.of? kind a.outside = (Answer.of? kind a).map kind.outside := by
  obtain ⟨kind', r⟩ := a
  cases kind <;> cases kind' <;> rfl

theorem Answer.bind_of?_outside (kind : QueryKind) (found : Option Answer) :
    (found.map Answer.outside).bind (Answer.of? kind) =
      (found.bind (Answer.of? kind)).map kind.outside := by
  cases found with
  | none => rfl
  | some a => exact Answer.of?_outside kind a

/-- Two results that are the same failure, or are related. -/
inductive SameEnd {α : Type} (R : α → α → Prop) : Except Failure α → Except Failure α → Prop
  | failed (f : Failure) : SameEnd R (.error f) (.error f)
  | done {a b : α} (h : R a b) : SameEnd R (.ok a) (.ok b)

section Ends

variable {α β : Type} {R : α → α → Prop}

theorem SameEnd.refl (r : Except Failure α) : SameEnd Eq r r := by
  cases r with
  | error f => exact .failed f
  | ok a => exact .done rfl

theorem SameEnd.eq {r r' : Except Failure α} (h : SameEnd Eq r r') : r = r' := by
  cases h with
  | failed f => rfl
  | done h => rw [h]

theorem SameEnd.split {r r' : Except Failure α} (h : SameEnd R r r') :
    (∃ f, r = .error f ∧ r' = .error f) ∨ ∃ a b, r = .ok a ∧ r' = .ok b ∧ R a b := by
  cases h with
  | failed f => exact .inl ⟨f, rfl, rfl⟩
  | done h => exact .inr ⟨_, _, rfl, rfl, h⟩

end Ends

namespace Store

structure Traced.Alike {α : Type} (R : α → α → Prop) (t t' : Traced α) : Prop where
  events : t.events = t'.events
  result : SameEnd R t.result t'.result

namespace Traced.Alike

variable {α β : Type} {R : α → α → Prop} {S : β → β → Prop}

theorem ofExcept {r r' : Except Failure α} (h : SameEnd R r r') :
    Alike R (.ofExcept r) (.ofExcept r') :=
  ⟨rfl, h⟩

theorem pure {a b : α} (h : R a b) : Alike R (Pure.pure a) (Pure.pure b) :=
  ⟨rfl, .done h⟩

theorem refl (t : Traced α) : Alike Eq t t :=
  ⟨rfl, .refl t.result⟩

theorem eq {t t' : Traced α} (h : Alike Eq t t') : t = t' := by
  obtain ⟨events, result⟩ := t
  obtain ⟨events', result'⟩ := t'
  obtain ⟨rfl, hresult⟩ := h
  obtain rfl : result = result' := hresult.eq
  rfl

theorem bind {t t' : Traced α} {next next' : α → Traced β} (h : Alike R t t')
    (hnext : ∀ a b, R a b → Alike S (next a) (next' b)) : Alike S (t >>= next) (t' >>= next') := by
  rcases h.result.split with ⟨f, ht, ht'⟩ | ⟨a, b, ht, ht', hab⟩
  · rw [bind_of_error ht, bind_of_error ht']
    exact ⟨h.events, .failed f⟩
  · rw [bind_of_ok ht, bind_of_ok ht']
    obtain ⟨hafter, hend⟩ := hnext a b hab
    exact ⟨congrArg₂ (· ++ ·) h.events hafter, hend⟩

theorem orElse {t t' : Traced α} (h : Alike R t t') (f : Failure → Failure) :
    Alike R (t.orElse fun e => .fail (f e)) (t'.orElse fun e => .fail (f e)) := by
  obtain ⟨events, result⟩ := t
  obtain ⟨events', result'⟩ := t'
  obtain ⟨hevents, hresult⟩ := h
  cases hresult with
  | failed e => exact ⟨congrArg (· ++ []) hevents, .failed (f e)⟩
  | done h => exact ⟨hevents, .done h⟩

end Traced.Alike

/-- Databases that answer alike: the rows of pages read as records that differ at most in what stays
inside, or fail to be read in the same way. -/
structure Database.SameOutside (db db' : Database) : Prop where
  rest : { db with pageRows := db'.pageRows } = db'
  page : SameEnd (List.Forall₂ Record.SameOutside)
    (db.pageRows.mapM Record.ofRow) (db'.pageRows.mapM Record.ofRow)

section Queries

variable {settings : Settings} {db db' : Database}

theorem alike_query (h : { db with pageRows := db'.pageRows } = db') (kind : QueryKind)
    (st : Statement) :
    Traced.Alike (fun rows rows' => rows = db.rows kind ∧ rows' = db'.rows kind)
      (query settings db kind st) (query settings db' kind st) := by
  have hconnect : db'.connect = db.connect := by rw [← h]
  have hhangs : db'.hangs = db.hangs := by rw [← h]
  have hfailure : db'.queryFailure kind = db.queryFailure kind := by
    rw [← h]
    cases kind <;> rfl
  have hfetch : Traced.Alike (fun rows rows' => rows = db.rows kind ∧ rows' = db'.rows kind)
      (fetch db kind st) (fetch db' kind st) := by
    unfold fetch
    rw [hconnect, hhangs, hfailure]
    refine .bind (.refl _) fun _ _ _ => .bind (.refl _) fun _ _ _ => ?_
    have hrest := Traced.Alike.bind (.refl (Traced.attempt (db.queryFailure kind)))
      fun (_ _ : Unit) _ => Traced.Alike.pure
        (R := fun rows rows' => rows = db.rows kind ∧ rows' = db'.rows kind) ⟨rfl, rfl⟩
    split
    · exact .bind (.refl _) fun _ _ _ => hrest
    · exact hrest
  unfold query
  refine .bind (.refl _) fun _ _ _ => ?_
  split
  · exact .bind (.refl _) fun _ _ _ => hfetch.orElse _
  · exact hfetch.orElse _

theorem alike_retrieveSummary (h : db.SameOutside db') (f : Filters) :
    Traced.Alike Eq (retrieveSummary settings db f) (retrieveSummary settings db' f) := by
  refine (alike_query h.rest .summary _).bind fun rows rows' hrows => ?_
  have hsame : rows = rows' := by
    rw [hrows.1, hrows.2, ← h.rest]
    rfl
  rw [hsame]
  exact .refl _

theorem alike_retrievePage (h : db.SameOutside db') (page : PageMetadata) (f : Filters) :
    Traced.Alike (fun p p' => p.outside = p'.outside)
      (retrievePage settings db page f) (retrievePage settings db' page f) := by
  unfold retrievePage
  by_cases hlimit : page.limit < 1 ∨ settings.maxPageSize < page.limit
  · simp only [if_pos hlimit]
    exact ⟨rfl, .failed _⟩
  by_cases hoffset : page.offset < 0
  · simp only [if_neg hlimit, if_pos hoffset]
    exact ⟨rfl, .failed _⟩
  simp only [if_neg hlimit, if_neg hoffset]
  refine (alike_query h.rest .page _).bind fun rows rows' ⟨hrows, hrows'⟩ => ?_
  rw [hrows, hrows']
  refine .bind (.ofExcept h.page) fun records records' hrecords => .pure ?_
  have houtside : records.map Record.outside = records'.map Record.outside := by
    rw [← List.forall₂_eq_eq_eq, List.forall₂_map_left_iff, List.forall₂_map_right_iff]
    exact hrecords.imp fun _ _ h => h.outside_eq
  unfold Page.outside
  rw [hrecords.length_eq, houtside]

theorem alike_ask (h : db.SameOutside db') (q : Inquiry) :
    Traced.Alike (fun r r' => q.kind.outside r = q.kind.outside r')
      (q.ask settings db) (q.ask settings db') := by
  obtain ⟨kind, f⟩ := q
  cases kind with
  | summary => exact alike_retrieveSummary h f
  | page => exact alike_retrievePage h _ f

end Queries

end Store

end Census
