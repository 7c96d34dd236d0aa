import Census.Store.Basic
/-! Inquiries of the dashboard: a kind of query together with its filters. The kind fixes what an
answer is, which statement is sent, and what an answer costs the cache. -/
namespace Census

@[reducible] def QueryKind.Result : QueryKind → Type
  | summary => Summary
  | page => Page

/-- An answer that remembers the kind of its query. -/
structure Answer where
  kind : QueryKind
  result : kind.Result

def Answer.of? : (kind : QueryKind) → Answer → Option kind.Result
  | .summary, ⟨.summary, s⟩ => some s
  | .page, ⟨.page, p⟩ => some p
  | _, _ => none

structure Inquiry where
  kind : QueryKind
  filters : Filters
deriving DecidableEq

namespace Inquiry

def key (q : Inquiry) : Except Failure String :=
  q.filters.key q.kind

def cost (settings : Settings) (q : Inquiry) : Int :=
  match q.kind with
  | .summary => settings.summaryCacheCost
  | .page => settings.pageCacheCost

def wholePage (settings : Settings) : PageMetadata :=
  ⟨0, 0, settings.uiPageLimit⟩

def ask (settings : Settings) (db : Store.Database) (q : Inquiry) :
    Store.Traced q.kind.Result :=
  match q with
  | ⟨.summary, f⟩ => Store.retrieveSummary settings db f
  | ⟨.page, f⟩ => Store.retrievePage settings db (wholePage settings) f

end Inquiry

@[simp] theorem Answer.of?_mk (kind : QueryKind) (r : kind.Result) :
    Answer.of? kind ⟨kind, r⟩ = some r := by
  cases kind <;> rfl

end Census
