import Census.Filters.Basic
import Census.Hash.Sha256
import Census.Json.Writer
import Census.Text.Utf8
/-! Keys under which answers to queries are kept. A key is the kind of query and a digest of the
filters in a canonical form, in which agreeing moments are written alike. -/
namespace Census

open Time

inductive QueryKind
  | summary
  | page
deriving DecidableEq, Repr

def QueryKind.name : QueryKind → String
  | .summary => "summary"
  | .page => "page"

def QueryKind.ofName? (name : String) : Except Failure QueryKind :=
  if name = "summary" then .ok .summary
  else if name = "page" then .ok .page
  else .error (.keyKind name)

namespace Filters

/-- The canonical form of a moment: in UTC where the offset is known, with all six digits of the
fraction. -/
def canonicalMoment : Option Moment → Except Failure String
  | none => .ok ""
  | some m =>
    match m.toUtc? with
    | some u => .ok (String.ofList (u.write .always))
    | none => .error .dateRange

def canonical (f : Filters) : Except Failure (List String) := do
  let start ← canonicalMoment f.start
  let stop ← canonicalMoment f.stop
  return [f.country, f.city, f.service, f.version, start, stop]

def encoding (texts : List String) : List UInt8 :=
  Text.Utf8.encode (Json.array (texts.map .string)).write

def hexText (bytes : List UInt8) : String :=
  String.ofList (bytes.flatMap fun b => Text.hex 2 b.toNat)

def key (f : Filters) (kind : QueryKind) : Except Failure String :=
  f.canonical.map fun texts =>
    kind.name ++ ":" ++ hexText (Hash.Sha256.digest (encoding texts))

/-- The form in which a bound of the window is shown in a page: UTC, to the second, without its
offset. -/
def shownMoment : Option Moment → Except Failure String
  | none => .ok ""
  | some m =>
    match m.toUtc? with
    | some u => .ok (String.ofList (u.writeReading .never))
    | none => .error .dateRange

end Filters

end Census
