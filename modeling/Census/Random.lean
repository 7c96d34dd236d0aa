/-! Sources of random words, and samples drawn with them. A sample is the beginning of a shuffled
list, so its members stand at different places of the list. -/
namespace Census

/-- A source yields words for seeds and words for samples, and moves on. -/
class RandomSource (σ : Type) where
  seed : σ → UInt64 × σ
  word : σ → UInt64 × σ

namespace RandomSource

variable {σ α : Type} [RandomSource σ]

/-- Takes the item at a place, whose position the first item moves into. -/
def takeAt (x : α) (xs : List α) : Nat → α × List α
  | 0 => (x, xs)
  | i + 1 =>
    match xs[i]? with
    | some y => (y, xs.set i x)
    | none => (x, xs)

/-- Up to `k` items at different places, the last of the source's words unused. -/
def sample : (k : Nat) → List α → σ → List α × σ
  | 0, _, s => ([], s)
  | _, [], s => ([], s)
  | k + 1, x :: xs, s =>
    let (w, s) := word s
    let (y, rest) := takeAt x xs ((w >>> 33).toNat % (xs.length + 1))
    let (ys, s) := sample k rest s
    (y :: ys, s)

end RandomSource

/-- A linear congruential source. Prepared words serve as seeds first. -/
structure Congruential where
  state : UInt64
  prepared : List UInt64
deriving DecidableEq

namespace Congruential

def next (c : Congruential) : UInt64 × Congruential :=
  let r := c.state * 6364136223846793005 + 1442695040888963407
  (r, { c with state := r })

instance : RandomSource Congruential where
  word := next
  seed c :=
    match c.prepared with
    | [] => c.next
    | s :: rest => (s, { c with prepared := rest })

end Congruential

end Census
