import Census.Cache.Lookup

/-! Operations on a cache by its callers, and runs of them. An answer computed on demand asks for
the key and, on a miss, sets it and waits; where others work during the computation, these three
stand in the run one by one. -/
namespace Census.Cache

variable {β σ : Type}

theorem live?_eq (c : Cache β σ) (key : String) (now limit : Float) :
    c.live? key now limit = (fresh? now limit (c.get key false).1, (c.get key false).2) :=
  rfl

variable [RandomSource σ]

/-- A live answer, or the one computed at a time in its stead, which is kept. A computation that
fails keeps nothing. -/
def compute (c : Cache β σ) (key : String) (now limit : Float) (answer : Option (β × Float))
    (cost : Int) : Option β × Cache β σ :=
  match c.live? key now limit with
  | (some payload, c) => (some payload, c)
  | (none, c) =>
    match answer with
    | none => (none, c)
    | some (payload, time) => (some payload, c.keep key payload time cost)

inductive Operation (β : Type)
  | set (key : String) (value : Option (Stored β)) (cost : Int)
  | get (key : String) (contended : Bool)
  | wait
  | delete (key : String)
  | clear
  | close
  | compute (key : String) (now limit : Float) (answer : Option (β × Float)) (cost : Int)

def step (c : Cache β σ) : Operation β → Cache β σ
  | .set key value cost => (c.set key value cost).2
  | .get key contended => (c.get key contended).2
  | .wait => c.wait
  | .delete key => c.delete key
  | .clear => c.clear
  | .close => c.close
  | .compute key now limit answer cost => (c.compute key now limit answer cost).2

def run (c : Cache β σ) (ops : List (Operation β)) : Cache β σ :=
  ops.foldl step c

theorem run_append_singleton (c : Cache β σ) (ops : List (Operation β)) (op : Operation β) :
    c.run (ops ++ [op]) = (c.run ops).step op := by
  simp [run]

theorem run_keeps {P : Cache β σ → Prop} (hstep : ∀ c op, P c → P (c.step op)) {c : Cache β σ}
    (hc : P c) (ops : List (Operation β)) : P (c.run ops) := by
  induction ops generalizing c with
  | nil => exact hc
  | cons op ops ih => exact ih (hstep c op hc)

end Census.Cache
