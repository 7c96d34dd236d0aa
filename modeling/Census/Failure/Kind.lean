/-! The kinds of failure, in a tree: a kind counts as every kind above it. Some kinds belong to
this library, the others to the peers it talks to. -/
namespace Census

inductive FailureKind
  | any
  -- this library
  | own | query | reading | saving | invalidEvent | rollback | location | rendering | cacheSetup
  -- values and the machine
  | value | fields | textEncoding | textDecoding | type | arithmetic | overflow | lookup | key
  | runtime | memory | system | timeout
  -- databases
  | database | databaseInterface | databaseOperation | canceled | integrity | uniqueness
  | programming | unknownTable | unknownFunction | duplicateTable
  | data | textRepresentation | numericRange | repertoire | untranslatable | truncation
  -- the network
  | http | connecting | readTimeout | redirects | decoding | httpStatus | scheme | address
  | memoryStore | memoryStoreConnection
  -- templates
  | template | templateMissing | templateSyntax | undefinedName
deriving DecidableEq, Repr

namespace FailureKind

def parent? : FailureKind → Option FailureKind
  | any => none
  | own => some any
  | query | reading | saving | invalidEvent | location | rendering | cacheSetup => some own
  | rollback => some saving
  | value | type | arithmetic | lookup | runtime | memory | system => some any
  | fields | textEncoding | textDecoding => some value
  | overflow => some arithmetic
  | key => some lookup
  | timeout => some system
  | database => some any
  | databaseInterface | databaseOperation | integrity | programming | data => some database
  | canceled => some databaseOperation
  | uniqueness => some integrity
  | unknownTable | unknownFunction | duplicateTable => some programming
  | textRepresentation | numericRange | repertoire | untranslatable | truncation => some data
  | http => some any
  | connecting | readTimeout | redirects | decoding | httpStatus | scheme => some http
  | address => some any
  | memoryStore => some any
  | memoryStoreConnection => some memoryStore
  | template => some any
  | templateMissing | templateSyntax | undefinedName => some template

def climb : (steps : Nat) → FailureKind → List FailureKind
  | 0, k => [k]
  | steps + 1, k =>
    k :: match k.parent? with
      | none => []
      | some p => climb steps p

/-- A kind and all kinds above it; no kind lies more than three steps below the top. -/
def lineage (k : FailureKind) : List FailureKind :=
  climb 3 k

def isA (k other : FailureKind) : Bool :=
  k.lineage.contains other

theorem lineage_of_parent {k p : FailureKind} (h : k.parent? = some p) :
    k.lineage = k :: p.lineage := by
  cases k <;> cases h <;> rfl

end FailureKind

end Census
