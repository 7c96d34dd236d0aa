import Census.Cache.Admission
/-! Answers that are computed at most once in a while. An entry serves as long as its age is less
than a limit; otherwise the answer is computed and kept. -/
namespace Census.Cache

variable {β σ : Type}

def fresh? (now limit : Float) : Option (Stored β) → Option β
  | some (.entry payload time) => if now - time < limit then some payload else none
  | _ => none

def live? (c : Cache β σ) (key : String) (now limit : Float) : Option β × Cache β σ :=
  let (found, c) := c.get key false
  (fresh? now limit found, c)

def keep [RandomSource σ] (c : Cache β σ) (key : String) (payload : β) (time : Float)
    (cost : Int) : Cache β σ :=
  (c.set key (some (.entry payload time)) cost).2.wait

end Census.Cache
