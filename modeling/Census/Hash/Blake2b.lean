/-! BLAKE2b with a digest of eight bytes and no key, as a number with its lowest byte first. -/
namespace Census.Hash.Blake2b

def initial : Vector UInt64 8 :=
  #v[0x6a09e667f3bcc908, 0xbb67ae8584caa73b, 0x3c6ef372fe94f82b, 0xa54ff53a5f1d36f1,
     0x510e527fade682d1, 0x9b05688c2b3e6c1f, 0x1f83d9abfb41bd6b, 0x5be0cd19137e2179]

def permutations : List (Vector (Fin 16) 16) :=
  [#v[0, 1, 2, 3, 4, 5, 6, 7, 8, 9, 10, 11, 12, 13, 14, 15],
   #v[14, 10, 4, 8, 9, 15, 13, 6, 1, 12, 0, 2, 11, 7, 5, 3],
   #v[11, 8, 12, 0, 5, 2, 15, 13, 10, 14, 3, 6, 7, 1, 9, 4],
   #v[7, 9, 3, 1, 13, 12, 11, 14, 2, 6, 5, 10, 4, 0, 15, 8],
   #v[9, 0, 5, 7, 2, 4, 10, 15, 14, 1, 11, 12, 6, 8, 3, 13],
   #v[2, 12, 6, 10, 0, 11, 8, 3, 4, 13, 7, 5, 15, 14, 1, 9],
   #v[12, 5, 1, 15, 14, 13, 4, 10, 0, 7, 6, 3, 9, 2, 8, 11],
   #v[13, 11, 7, 14, 12, 1, 3, 9, 5, 0, 15, 4, 8, 6, 2, 10],
   #v[6, 15, 14, 9, 11, 3, 0, 8, 12, 2, 13, 7, 1, 4, 10, 5],
   #v[10, 2, 8, 4, 7, 6, 1, 5, 15, 11, 9, 14, 3, 12, 13, 0],
   #v[0, 1, 2, 3, 4, 5, 6, 7, 8, 9, 10, 11, 12, 13, 14, 15],
   #v[14, 10, 4, 8, 9, 15, 13, 6, 1, 12, 0, 2, 11, 7, 5, 3]]

def rotate (x n : UInt64) : UInt64 :=
  (x >>> n) ||| (x <<< (64 - n))

def mix (v : Vector UInt64 16) (a b c d : Fin 16) (x y : UInt64) : Vector UInt64 16 :=
  let a1 := v[a] + v[b] + x
  let d1 := rotate (v[d] ^^^ a1) 32
  let c1 := v[c] + d1
  let b1 := rotate (v[b] ^^^ c1) 24
  let a2 := a1 + b1 + y
  let d2 := rotate (d1 ^^^ a2) 16
  let c2 := c1 + d2
  let b2 := rotate (b1 ^^^ c2) 63
  (((v.set a a2).set b b2).set c c2).set d d2

/-- The columns of the state, then its diagonals. -/
def round (block : Vector UInt64 16) (v : Vector UInt64 16) (s : Vector (Fin 16) 16) :
    Vector UInt64 16 :=
  let m (i : Fin 16) : UInt64 := block[s[i]]
  let v := mix v 0 4 8 12 (m 0) (m 1)
  let v := mix v 1 5 9 13 (m 2) (m 3)
  let v := mix v 2 6 10 14 (m 4) (m 5)
  let v := mix v 3 7 11 15 (m 6) (m 7)
  let v := mix v 0 5 10 15 (m 8) (m 9)
  let v := mix v 1 6 11 12 (m 10) (m 11)
  let v := mix v 2 7 8 13 (m 12) (m 13)
  mix v 3 4 9 14 (m 14) (m 15)

def littleEndian (bytes : List UInt8) : UInt64 :=
  bytes.foldr (fun b n => (n <<< 8) ||| b.toUInt64) 0

def words (bytes : List UInt8) : Vector UInt64 16 :=
  Vector.ofFn fun i => littleEndian ((bytes.drop (8 * i.val)).take 8)

def compress (h : Vector UInt64 8) (block : List UInt8) (counted : Nat) (last : Bool) :
    Vector UInt64 8 :=
  let v : Vector UInt64 16 := h ++ initial
  let v := v.set 12 (v[12] ^^^ counted.toUInt64)
  let v := if last then v.set 14 (~~~v[14]) else v
  let m := words block
  let v := permutations.foldl (round m) v
  Vector.ofFn fun i => h[i] ^^^ v[i.val] ^^^ v[i.val + 8]

def absorb : (blocks : Nat) → Vector UInt64 8 → (counted : Nat) → List UInt8 → Vector UInt64 8
  | 0, h, counted, bytes => compress h bytes (counted + bytes.length) true
  | blocks + 1, h, counted, bytes =>
    absorb blocks (compress h (bytes.take 128) (counted + 128) false) (counted + 128)
      (bytes.drop 128)

def digest (bytes : List UInt8) : UInt64 :=
  let start := initial.set 0 (initial[0] ^^^ 0x01010008)
  (absorb ((bytes.length - 1) / 128) start 0 bytes)[0]

end Census.Hash.Blake2b
