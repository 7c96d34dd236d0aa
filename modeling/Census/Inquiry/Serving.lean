import Census.Cache.Lookup
import Census.Inquiry.Basic
/-! Operations that use the cache and the database. What such an operation did to the cache before
it failed stays done. -/
namespace Census

def Serving (σ α : Type) := Cache Answer σ → Store.Traced α × Cache Answer σ

namespace Serving

variable {σ α β : Type}

def pure (a : α) : Serving σ α := fun c => (.pure a, c)

def lift (t : Store.Traced α) : Serving σ α := fun c => (t, c)

def ofExcept (r : Except Failure α) : Serving σ α := lift (.ofExcept r)

def use (step : Cache Answer σ → α × Cache Answer σ) : Serving σ α := fun c =>
  let (a, c) := step c
  (.pure a, c)

def bind (s : Serving σ α) (f : α → Serving σ β) : Serving σ β := fun c =>
  let (t, c) := s c
  match t.result with
  | .ok a =>
    let (u, c) := f a c
    (⟨t.events ++ u.events, u.result⟩, c)
  | .error e => (⟨t.events, .error e⟩, c)

instance : Monad (Serving σ) where
  pure := pure
  bind := bind

theorem bind_of_ok {s : Serving σ α} {c : Cache Answer σ} {a : α} (h : (s c).1.result = .ok a)
    (f : α → Serving σ β) :
    (s >>= f) c =
      (⟨(s c).1.events ++ (f a (s c).2).1.events, (f a (s c).2).1.result⟩, (f a (s c).2).2) := by
  simp [Bind.bind, bind, h]

theorem bind_of_error {s : Serving σ α} {c : Cache Answer σ} {e : Failure}
    (h : (s c).1.result = .error e) (f : α → Serving σ β) :
    (s >>= f) c = (⟨(s c).1.events, .error e⟩, (s c).2) := by
  simp [Bind.bind, bind, h]

end Serving

end Census
