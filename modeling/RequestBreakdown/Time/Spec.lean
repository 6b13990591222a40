import RequestBreakdown.Time.DurationText
import RequestBreakdown.Time.IsoText
import RequestBreakdown.Time.PlainText
import RequestBreakdown.Value.Use

/-!
# Time specifications

A point in time is given as `now`, as a duration before now, or as an absolute
timestamp.  An absolute timestamp may end in `z` or `Z`, which says nothing.
-/

namespace RequestBreakdown

/-- A point in time and whether it was given relative to now. -/
structure TimePoint where
  timestamp : Timestamp
  isRelative : Bool
  deriving DecidableEq, Repr

/-- The duration that a value denotes; one that counts as absent denotes none. -/
def Duration.ofValue? (value : Value) : Except Fault (Option Duration) :=
  if value.isPresent then do Duration.read? (← value.asText) else .ok none

namespace TimePoint

def dropZulu (s : String) : String :=
  String.ofList (Text.trimEndBy (fun c => c = 'z' || c = 'Z') s.toList)

def readAbsolute? (s : String) : Option Timestamp :=
  Timestamp.readIso? (dropZulu s) <|> Timestamp.readPlain? (dropZulu s)

def read (text : String) (now : Timestamp) : Except Fault TimePoint := do
  let spec := Text.trim text
  if spec = "" then throw (.input .emptyTime)
  if Text.lower spec = "now" then return ⟨now, true⟩
  match ← Duration.read? spec with
  | some duration => return ⟨← now.sub duration, true⟩
  | none =>
    match readAbsolute? spec with
    | some timestamp => return ⟨timestamp, false⟩
    | none => throw (.input (.unreadableTime text))

/-- The point in time of a value, which must not be null. -/
def ofValue (value : Value) (now : Timestamp) : Except Fault TimePoint :=
  if value = .null then .error (.input .missingTime) else do read (← value.asText) now

end TimePoint

end RequestBreakdown
