import Census.Failure.Basic
import Census.Table
import Census.Text.Blank
import Census.Text.Digit
import Census.Text.Utf8
/-! The id of a deployment: given from outside, or kept in a file, or made up once and kept. An id
that could not be kept is not used. -/
namespace Census

abbrev Uuid := Vector UInt8 16

namespace Uuid

/-- Random bytes, with the bits set that tell how they came about. -/
def ofRandom (bytes : Uuid) : Uuid :=
  (bytes.set 6 (bytes[6] &&& 0x0F ||| 0x40)).set 8 (bytes[8] &&& 0x3F ||| 0x80)

def groups : (lengths : List Nat) → List UInt8 → List (List UInt8)
  | [], _ => []
  | n :: lengths, bytes => bytes.take n :: groups lengths (bytes.drop n)

def text (id : Uuid) : String :=
  String.ofList (['-'].intercalate
    ((groups [4, 2, 2, 2, 6] id.toList).map (·.flatMap fun b => Text.hex 2 b.toNat)))

end Uuid

/-- What a host does with a file that is named by its path. A step may change the host also where
it fails. -/
structure FileHost (σ : Type) where
  read : (path : String) → σ → Except Failure (List UInt8)
  makeFolder : (path : String) → σ → Except Failure Unit × σ
  write : (path : String) → (bytes : List UInt8) → σ → Except Failure Unit × σ

namespace Identity

variable {σ : Type}

def idVariable : String := "MG_DEPLOYMENT_ID"

def fileVariable : String := "MG_CALLHOME_DEPLOYMENT_ID_FILE"

/-- A variable of the environment; an empty one counts as absent. -/
def value? (env : Table String) (name : String) : Option String :=
  (env.get? name).filter (· ≠ "")

def path (env : Table String) : String :=
  (value? env fileVariable).getD "/var/lib/magistrala/callhome/deployment_id"

def readText (bytes : List UInt8) : Except Failure String :=
  match Text.Utf8.decode bytes with
  | .ok cs => .ok (Text.trim (String.ofList (Text.unifyLines cs)))
  | .error m => .error (.outside .textDecoding m.message)

/-- The failures that leave a deployment without its file. -/
def isPassable (f : Failure) : Bool :=
  f.isA .system

def keep (host : FileHost σ) (path id : String) (state : σ) : Except Failure Unit × σ :=
  match host.makeFolder path state with
  | (.error f, state) => (.error f, state)
  | (.ok (), state) => host.write path (Text.Utf8.encode id.toList) state

/-- The id of a deployment, and the host afterwards. The fresh id is for a file that the host
cannot read. -/
def obtain (host : FileHost σ) (env : Table String) (fresh : String) (state : σ) :
    Except Failure String × σ :=
  match value? env idVariable with
  | some id => (.ok id, state)
  | none =>
    match (host.read (path env) state).bind readText with
    | .ok id => (.ok id, state)
    | .error f =>
      if isPassable f then
        match keep host (path env) fresh state with
        | (.ok (), state) => (.ok fresh, state)
        | (.error f, state) => (if isPassable f then .ok "" else .error f, state)
      else (.error f, state)

end Identity

/-- A host with a single file: what can be read of it, and whether it can be written. -/
structure IdFile where
  content : Option (List UInt8)
  writable : Bool
deriving DecidableEq

namespace IdFile

def refusal : Failure := .outside .system ""

def host : FileHost IdFile where
  read _ file := file.content.elim (.error refusal) .ok
  makeFolder _ file := (.ok (), file)
  write _ bytes file :=
    if file.writable then (.ok (), { file with content := some bytes }) else (.error refusal, file)

def obtain (file : IdFile) (given : Option String) (fresh : String) :
    Except Failure String × IdFile :=
  Identity.obtain host (given.map (Identity.idVariable, ·)).toList fresh file

end IdFile

end Census
