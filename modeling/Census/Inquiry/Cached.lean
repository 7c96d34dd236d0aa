import Census.Inquiry.Serving
/-! Inquiries answered from the cache while an answer is live. An inquiry has two halves: it looks
for a live answer, and an answer of the database is kept. The database works in between, and other
inquiries may run then. -/
namespace Census.Inquiry

variable {σ : Type}

/-- The first half: a live answer under the key. -/
def live? (settings : Settings) (clock : Float) (q : Inquiry) (key : String) :
    Serving σ (Option q.kind.Result) :=
  Serving.use fun c =>
    let (found, c) := c.live? key clock settings.cacheTtlSeconds
    (found.bind (Answer.of? q.kind), c)

/-- The second half: a new answer under the key. -/
def keep [RandomSource σ] (settings : Settings) (clock : Float) (q : Inquiry) (key : String)
    (r : q.kind.Result) : Serving σ Unit :=
  Serving.use fun c => ((), c.keep key ⟨q.kind, r⟩ clock (q.cost settings))

/-- The answer to an inquiry. Filters without a key leave the cache untouched, and a failure of the
database is not kept. -/
def resolve [RandomSource σ] (settings : Settings) (db : Store.Database) (clock : Float)
    (q : Inquiry) : Serving σ q.kind.Result := do
  let key ← Serving.ofExcept q.key
  match ← live? settings clock q key with
  | some r => return r
  | none =>
    let r ← Serving.lift (q.ask settings db)
    keep settings clock q key r
    return r

end Census.Inquiry
