import Census.Failure.Fault
import Census.Failure.Kind
import Census.Text.Quoted
/-! Failures as causes. A failure knows its kind, its message and the failure that led to it. -/
namespace Census

inductive CacheSize
  | counters
  | cost
  | buffer
deriving DecidableEq, Repr

def CacheSize.name : CacheSize → String
  | .counters => "num_counters"
  | .cost => "max_cost"
  | .buffer => "buffer_items"

inductive Failure
  /-- Raised by a peer, with the peer's own words. -/
  | outside (kind : FailureKind) (text : String)
  | queryLimit
  | queryOffset
  | queryRange
  | pageLimit (limit : Int)
  | pageOffset (offset : Int)
  | unreadable (cause : Failure)
  | unidentified
  | unsaved (cause : Failure)
  | unsavedEvent (cause : Failure)
  | invalidEvent (cause : Failure)
  | rollback (save undo : Failure)
  | locationDatabase (path : String) (cause : Failure)
  | locationAddress (text : Option String)
  | locationLookup (cause : Failure)
  | locationRefused (reason : String)
  | locationAbsent (address : String)
  | locationCoordinates (address : String) (cause : Failure)
  | template (cause : Failure)
  | rendering (cause : Failure)
  | cacheSize (size : CacheSize)
  | rowLength
  | bufferLength
  | noMemory
  | fields (faults : List Fault)
  | keyKind (name : String)
  | yearRange (year : Int)
  | dateRange
  | durationDays (days : Int)
  | durationWord
  | doubleRange
  /-- The quoted text is cut in the message. -/
  | wholeNumber (shown : String)
  | wholeLength (digits : Nat)
  | notDecimal (shown : String)
  | notConvertible (type accepted : String)
  | notIterable (type : String)
  | unhashable (type : String)
  | mixedOrder (left right : String)
  | httpStatus (status : Int)
deriving DecidableEq

namespace Failure

def kind : Failure → FailureKind
  | outside kind _ => kind
  | queryLimit | queryOffset | queryRange | pageLimit _ | pageOffset _ => .query
  | unreadable _ => .reading
  | unidentified | unsaved _ | unsavedEvent _ => .saving
  | invalidEvent _ => .invalidEvent
  | .rollback _ _ => .rollback
  | locationDatabase _ _ | locationAddress _ | locationLookup _ | locationRefused _
  | locationAbsent _ | locationCoordinates _ _ => .location
  | template _ | rendering _ => .rendering
  | cacheSize _ => .cacheSetup
  | fields _ => .fields
  | keyKind _ | yearRange _ | wholeNumber _ | wholeLength _ | notDecimal _ => .value
  | dateRange | durationDays _ | durationWord | doubleRange | rowLength | bufferLength => .overflow
  | noMemory => .memory
  | notConvertible _ _ | notIterable _ | unhashable _ | mixedOrder _ _ => .type
  | httpStatus _ => .httpStatus

def shownLimit : Nat := 200

def message : Failure → String
  | outside _ text => text
  | queryLimit => "invalid limit size"
  | queryOffset => "invalid offset size"
  | queryRange => "invalid date range"
  | pageLimit limit => "invalid limit size: " ++ toString limit
  | pageOffset offset => "invalid offset size: " ++ toString offset
  | unreadable cause => "failed to read telemetry: " ++ cause.message
  | unidentified => "failed to save event: ip address or deployment id is required"
  | unsaved cause => "failed to save event: " ++ cause.message
  | unsavedEvent _ => "failed to save event: invalid event"
  | invalidEvent cause => "invalid event: " ++ cause.message
  | .rollback save undo =>
    save.message ++ ": transaction rollback failed: " ++ undo.message
  | locationDatabase path cause => "failed to open ip database " ++ path ++ ": " ++ cause.message
  | locationAddress (some text) => "invalid ip address: " ++ Text.quoted text
  | locationAddress none => "invalid ip address: None"
  | locationLookup cause => "location lookup failed: " ++ cause.message
  | locationRefused reason => "location lookup failed: " ++ reason
  | locationAbsent address => "no location found for " ++ address
  | locationCoordinates address _ => "invalid coordinates for " ++ address
  | template cause => "failed to load template: " ++ cause.message
  | rendering cause => "failed to render template: " ++ cause.message
  | cacheSize size => size.name ++ " must be positive"
  | fields _ => ""
  | keyKind name => "unknown cache key kind: " ++ name
  | yearRange year => "year " ++ toString year ++ " is out of range"
  | dateRange => "date value out of range"
  | durationDays days => "days=" ++ toString days ++ "; must have magnitude <= 999999999"
  | durationWord => "Python int too large to convert to C int"
  | rowLength => "cannot fit 'int' into an index-sized integer"
  | bufferLength => "Python int too large to convert to C ssize_t"
  | noMemory => ""
  | doubleRange => "int too large to convert to float"
  | wholeNumber shown =>
    "invalid literal for int() with base 10: " ++ String.ofList (shown.toList.take shownLimit)
  | wholeLength digits =>
    "Exceeds the limit (4300 digits) for integer string conversion: value has " ++
      toString digits ++ " digits; use sys.set_int_max_str_digits() to increase the limit"
  | notDecimal shown => "could not convert string to float: " ++ shown
  | notConvertible type accepted =>
    accepted ++ ", not '" ++ type ++ "'"
  | notIterable type => "'" ++ type ++ "' object is not iterable"
  | unhashable type => "unhashable type: '" ++ type ++ "'"
  | mixedOrder left right =>
    "'<' not supported between instances of '" ++ left ++ "' and '" ++ right ++ "'"
  | httpStatus status => "unsuccessful sending telemetry data with code " ++ toString status

def ofValue (text : String) : Failure :=
  outside .value text

def notAnAddress (text : Option String) : Failure :=
  ofValue (Text.quoted (text.getD "") ++ " does not appear to be an IPv4 or IPv6 address")

def cause? : Failure → Option Failure
  | unreadable cause | unsaved cause | invalidEvent cause | locationDatabase _ cause
  | locationLookup cause | locationCoordinates _ cause | template cause | rendering cause =>
    some cause
  | unsavedEvent cause => some (invalidEvent cause)
  | .rollback save _ => some save
  | locationAddress text => some (notAnAddress text)
  | _ => none

def causes : Failure → List Failure
  | unreadable cause | unsaved cause | invalidEvent cause | locationDatabase _ cause
  | locationLookup cause | locationCoordinates _ cause | template cause | rendering cause =>
    cause :: cause.causes
  | unsavedEvent cause => invalidEvent cause :: cause :: cause.causes
  | .rollback save _ => save :: save.causes
  | locationAddress text => [notAnAddress text]
  | _ => []

theorem causes_eq (f : Failure) :
    f.causes = match f.cause? with
      | none => []
      | some c => c :: c.causes := by
  cases f <;> simp [causes, cause?, notAnAddress, ofValue]

/-- The nearest failure of a kind, this one included. -/
def find? (f : Failure) (kind : FailureKind) : Option Failure :=
  (f :: f.causes).find? (·.kind.isA kind)

def isA (f : Failure) (kind : FailureKind) : Bool :=
  f.kind.isA kind

end Failure

end Census
