import Census.Failure.Basic
import Census.Filters.Key
import Census.Store.Statement
/-! What an operation does to the database, step by step, and how it ends. -/
namespace Census.Store

inductive Event
  /-- The pool is asked for; the first time it is opened. -/
  | pool
  | query (kind : QueryKind) (statement : Statement)
  | insert (statement : Statement)
  | commit
  | rollback
  | schema (text : String)
  | begin

structure Traced (α : Type) where
  events : List Event
  result : Except Failure α

namespace Traced

variable {α β : Type}

def pure (a : α) : Traced α := ⟨[], .ok a⟩

def fail (f : Failure) : Traced α := ⟨[], .error f⟩

def ofExcept (r : Except Failure α) : Traced α := ⟨[], r⟩

def emit (e : Event) : Traced Unit := ⟨[e], .ok ()⟩

def bind (t : Traced α) (f : α → Traced β) : Traced β :=
  match t.result with
  | .ok a => ⟨t.events ++ (f a).events, (f a).result⟩
  | .error e => ⟨t.events, .error e⟩

instance : Monad Traced where
  pure := pure
  bind := bind

theorem bind_of_ok {t : Traced α} {a : α} (h : t.result = .ok a) (f : α → Traced β) :
    t >>= f = ⟨t.events ++ (f a).events, (f a).result⟩ := by
  simp [Bind.bind, bind, h]

theorem bind_of_error {t : Traced α} {e : Failure} (h : t.result = .error e) (f : α → Traced β) :
    t >>= f = ⟨t.events, .error e⟩ := by
  simp [Bind.bind, bind, h]

def attempt : Option Failure → Traced Unit
  | none => pure ()
  | some f => fail f

def orElse (t : Traced α) (handle : Failure → Traced α) : Traced α :=
  match t.result with
  | .ok _ => t
  | .error f => ⟨t.events ++ (handle f).events, (handle f).result⟩

end Traced

/-- What is seen of a log if the pool may be open already: it is opened once at most. -/
def visible (isOpen : Bool) : List Event → List Event
  | [] => []
  | .pool :: rest => if isOpen then visible true rest else .pool :: visible true rest
  | e :: rest => e :: visible isOpen rest

end Census.Store
