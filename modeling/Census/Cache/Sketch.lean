import Census.Failure.Basic
import Census.Random
/-! A count-min sketch of how often keys were requested lately. Every key has one cell in each of
four rows; counts stop at a top value, and all cells are halved after a number of additions. -/
namespace Census

structure SketchRow (width : Nat) where
  seed : UInt64
  cells : Vector Nat width

structure Sketch where
  width : Nat
  width_pos : 0 < width
  rows : Vector (SketchRow width) 4
  /-- The number of additions after which the cells are halved. -/
  resetAt : Nat
  additions : Nat

namespace SketchRow

def top : Nat := 15

def cell {width : Nat} (pos : 0 < width) (seed hash : UInt64) : Fin width :=
  ⟨(((hash ^^^ seed) * 0x9E3779B97F4A7C15) >>> 32).toNat % width, Nat.mod_lt _ pos⟩

variable {width : Nat}

def count (r : SketchRow width) (pos : 0 < width) (hash : UInt64) : Nat :=
  r.cells[cell pos r.seed hash]

def increment (r : SketchRow width) (pos : 0 < width) (hash : UInt64) : SketchRow width :=
  let i := cell pos r.seed hash
  { r with cells := r.cells.set i (min top (r.cells[i] + 1)) }

def halve (r : SketchRow width) : SketchRow width :=
  { r with cells := r.cells.map (· / 2) }

def clear (r : SketchRow width) : SketchRow width :=
  { r with cells := Vector.replicate width 0 }

end SketchRow

namespace Sketch

/-- The least power of two that is not below a number of counters. -/
def widthFor (counters : Nat) : Nat :=
  if counters ≤ 1 then 1 else Nat.pow 2 ((counters - 1).log2 + 1)

theorem widthFor_pos (counters : Nat) : 0 < widthFor counters := by
  unfold widthFor; split
  · decide
  · exact Nat.pow_pos (by decide)

def countLimit : Nat := 9223372036854775807

/-- The width from which on no memory is found. -/
def memoryLimit : Nat := 68719476736

def room (counters : Nat) : Except Failure Unit :=
  if countLimit < widthFor counters then .error .rowLength
  else if memoryLimit ≤ widthFor counters then .error .noMemory
  else .ok ()

def withSeeds (counters : Nat) (seeds : Vector UInt64 4) : Sketch where
  width := widthFor counters
  width_pos := widthFor_pos counters
  rows := seeds.map fun s => ⟨s, Vector.replicate (widthFor counters) 0⟩
  resetAt := max (counters * 10) 1
  additions := 0

def make {σ : Type} [RandomSource σ] (counters : Nat) (s : σ) : Sketch × σ :=
  let (a, s) := RandomSource.seed s
  let (b, s) := RandomSource.seed s
  let (c, s) := RandomSource.seed s
  let (d, s) := RandomSource.seed s
  (withSeeds counters (#v[a, b, c, d].map (· ||| 1)), s)

def reset (k : Sketch) : Sketch :=
  { k with rows := k.rows.map SketchRow.halve, additions := 0 }

def clear (k : Sketch) : Sketch :=
  { k with rows := k.rows.map SketchRow.clear, additions := 0 }

def increment (k : Sketch) (hash : UInt64) : Sketch :=
  let counted : Sketch :=
    { k with
      rows := k.rows.map fun r => r.increment k.width_pos hash
      additions := k.additions + 1 }
  if k.resetAt ≤ counted.additions then counted.reset else counted

def estimate (k : Sketch) (hash : UInt64) : Nat :=
  (k.rows.map fun r => r.count k.width_pos hash).toList.min (List.ne_nil_of_length_pos (by simp))

end Sketch

end Census
