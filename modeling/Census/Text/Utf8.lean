import Census.Text.Digit
/-! UTF-8 text as bytes, read strictly or with U+FFFD in the place of what is malformed. Both
readings cut malformed bytes at the same places: a truncated sequence is one fault, and its first
byte that cannot continue the sequence is read anew. -/
namespace Census.Text.Utf8

inductive Fault
  | start
  | continuation
  | cutOff
deriving DecidableEq, Repr

def Fault.reason : Fault → String
  | .start => "invalid start byte"
  | .continuation => "invalid continuation byte"
  | .cutOff => "unexpected end of data"

/-- What a first byte announces: the bits it contributes, and the range allowed for the second
byte, followed by the number of further bytes. -/
inductive Lead
  | single (c : Nat)
  | multi (bits : Nat) (low high : Nat) (more : Nat)
  | none
deriving DecidableEq

def lead (b : UInt8) : Lead :=
  let n := b.toNat
  if n < 0x80 then .single n
  else if n < 0xC2 then .none
  else if n < 0xE0 then .multi (n - 0xC0) 0x80 0xBF 0
  else if n = 0xE0 then .multi 0 0xA0 0xBF 1
  else if n = 0xED then .multi 0xD 0x80 0x9F 1
  else if n < 0xF0 then .multi (n - 0xE0) 0x80 0xBF 1
  else if n = 0xF0 then .multi 0 0x90 0xBF 2
  else if n < 0xF4 then .multi (n - 0xF0) 0x80 0xBF 2
  else if n = 0xF4 then .multi 4 0x80 0x8F 2
  else .none

/-- Reads `more + 1` continuation bytes, the first of them within the given range. `seen` counts
the bytes of the sequence read so far. -/
def continuations (acc seen low high : Nat) : (more : Nat) → List UInt8 →
    Except (Fault × Nat) (Nat × Nat)
  | _, [] => .error (.cutOff, seen)
  | 0, b :: _ =>
    if low ≤ b.toNat ∧ b.toNat ≤ high then .ok (acc * 64 + (b.toNat - 0x80), seen + 1)
    else .error (.continuation, seen)
  | more + 1, b :: bs =>
    if low ≤ b.toNat ∧ b.toNat ≤ high then
      continuations (acc * 64 + (b.toNat - 0x80)) (seen + 1) 0x80 0xBF more bs
    else .error (.continuation, seen)

/-- The character at the head of the bytes and the length of its sequence, or the fault there and
the number of bytes that it covers. -/
def head (b : UInt8) (bs : List UInt8) : Except (Fault × Nat) (Char × Nat) :=
  match lead b with
  | .single c => .ok (Char.ofNat c, 1)
  | .none => .error (.start, 1)
  | .multi bits low high more =>
    (continuations bits 1 low high more bs).map fun (c, n) => (Char.ofNat c, n)

structure Malformed where
  start : Nat
  length : Nat
  byte : UInt8
  fault : Fault
deriving DecidableEq

def Malformed.message (m : Malformed) : String :=
  let position :=
    if m.length ≤ 1 then
      "byte 0x" ++ String.ofList (hex 2 m.byte.toNat) ++ " in position " ++ toString m.start
    else
      "bytes in position " ++ toString m.start ++ "-" ++ toString (m.start + m.length - 1)
  "'utf-8' codec can't decode " ++ position ++ ": " ++ m.fault.reason

def decodeFrom (position : Nat) : (skip : Nat) → List UInt8 → Except Malformed (List Char)
  | _, [] => .ok []
  | skip + 1, _ :: bs => decodeFrom (position + 1) skip bs
  | 0, b :: bs =>
    match head b bs with
    | .ok (c, n) => (decodeFrom (position + 1) (n - 1) bs).map (c :: ·)
    | .error (fault, n) => .error ⟨position, n, b, fault⟩

def decode (bytes : List UInt8) : Except Malformed (List Char) :=
  decodeFrom 0 0 bytes

def decodeLossyFrom : (skip : Nat) → List UInt8 → List Char
  | _, [] => []
  | skip + 1, _ :: bs => decodeLossyFrom skip bs
  | 0, b :: bs =>
    match head b bs with
    | .ok (c, n) => c :: decodeLossyFrom (n - 1) bs
    | .error (_, n) => '\uFFFD' :: decodeLossyFrom (n - 1) bs

def decodeLossy (bytes : List UInt8) : List Char :=
  decodeLossyFrom 0 bytes

def encodeChar (c : Char) : List UInt8 :=
  let n := c.toNat
  if n < 0x80 then [n.toUInt8]
  else if n < 0x800 then [(0xC0 + n / 64).toUInt8, (0x80 + n % 64).toUInt8]
  else if n < 0x10000 then
    [(0xE0 + n / 4096).toUInt8, (0x80 + n / 64 % 64).toUInt8, (0x80 + n % 64).toUInt8]
  else
    [(0xF0 + n / 262144).toUInt8, (0x80 + n / 4096 % 64).toUInt8, (0x80 + n / 64 % 64).toUInt8,
      (0x80 + n % 64).toUInt8]

def encode (cs : List Char) : List UInt8 :=
  cs.flatMap encodeChar

end Census.Text.Utf8
