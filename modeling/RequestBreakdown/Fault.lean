import RequestBreakdown.Text.Numeral
import RequestBreakdown.Text.Quoted

/-!
# Faults

Everything that can go wrong, by cause.  The wording of each cause is one
function, and so is the question whether the user can mend it.
-/

namespace RequestBreakdown

/-- Mistakes in what the user or a log file supplied. -/
inductive InputFault where
  | unreadableInteger (text : String)
  | integerTooLong (digits : Nat)
  /-- A computed integer has too many digits to be written. -/
  | integerTooWide
  | unreadableNumber (text : String)
  | notANumber
  | unknownSamplingMode (mode : String)
  | concurrencyTooLow
  | unknownTimeRange (key : String)
  | emptyTime
  | missingTime
  | unreadableTime (text : String)
  | unreadableIsoTime (text : String)
  | emptyWindow (start stop : String)
  | nothingToLookUp
  | missingDataDirectory (path : String)
  | noDataDirectory
  /-- So many values stand where two are needed. -/
  | notAPair (count : Nat)
  | nulInPath
  /-- The code of a character ends too soon, behind the character of this number. -/
  | cutCode (last : Nat)
  | other (text : String)
  deriving DecidableEq, Repr

/-- Messages show this much of a text that is no integer, its quotes included. -/
def shownNumeral : Nat := 200

def InputFault.message : InputFault → String
  | .unreadableInteger text =>
    "invalid literal for int() with base 10: " ++ Text.quotedUpTo shownNumeral text
  | .integerTooLong digits =>
    "Exceeds the limit (" ++ toString Text.maxIntegerDigits ++ " digits) for integer string " ++
      "conversion: value has " ++ toString digits ++ " digits; use " ++
      "sys.set_int_max_str_digits() to increase the limit"
  | .integerTooWide =>
    "Exceeds the limit (" ++ toString Text.maxIntegerDigits ++ " digits) for integer string " ++
      "conversion; use sys.set_int_max_str_digits() to increase the limit"
  | .unreadableNumber text => "could not convert string to float: " ++ Text.quoted text
  | .notANumber => "cannot convert float NaN to integer"
  | .unknownSamplingMode mode => "Unknown sampling mode: " ++ mode
  | .concurrencyTooLow => "max_concurrent must be at least 1"
  | .unknownTimeRange key => "Unknown time range: " ++ key
  | .emptyTime => "Time string cannot be empty"
  | .missingTime => "Time string cannot be None"
  | .unreadableTime text => "Cannot parse time: " ++ text
  | .unreadableIsoTime text => "Invalid isoformat string: " ++ Text.quoted text
  | .emptyWindow start stop => "Empty time window: " ++ start ++ " .. " ++ stop
  | .nothingToLookUp => "No values to look up"
  | .missingDataDirectory path => "Data directory does not exist: " ++ path
  | .noDataDirectory => "No data directory configured"
  | .notAPair count =>
    if count < 2 then "not enough values to unpack (expected 2, got " ++ toString count ++ ")"
    else "too many values to unpack (expected 2)"
  | .nulInPath => "embedded null byte"
  | .cutCode last =>
    "'unicodeescape' codec can't decode bytes in position 0-" ++ toString last ++
      ": truncated \\xXX escape"
  | .other text => text

/-- Results too large for their type. -/
inductive RangeFault where
  | infinityToInteger
  | integerToNumber
  | quotient
  | date
  | duration
  | repetition
  deriving DecidableEq, Repr

def RangeFault.message : RangeFault → String
  | .infinityToInteger => "cannot convert float infinity to integer"
  | .integerToNumber => "int too large to convert to float"
  | .quotient => "integer division result too large for a float"
  | .date => "date value out of range"
  | .duration => "duration out of range"
  | .repetition => "cannot fit 'int' into an index-sized integer"

/-- Operands that an operation is not defined for. -/
inductive OperandFault where
  | mixedOffsetsCompared
  | mixedOffsetsSubtracted
  | notNegatable (kind : String)
  | notOrdered (operator left right : String)
  | notDivisible (left right : String)
  | notSubtracted (left right : String)
  | notJoined (kind : String)
  | notHashable (kind : String)
  | notIterable (kind : String)
  | notConvertible (kind : String)
  | notNumeric (kind : String)
  | notATime (kind : String)
  | noCount
  /-- An argument is of a kind that an operation is not defined for. -/
  | unsuitable
  deriving DecidableEq, Repr

def OperandFault.message : OperandFault → String
  | .mixedOffsetsCompared => "can't compare offset-naive and offset-aware datetimes"
  | .mixedOffsetsSubtracted => "can't subtract offset-naive and offset-aware datetimes"
  | .notNegatable kind => "bad operand type for unary -: '" ++ kind ++ "'"
  | .notOrdered operator left right =>
    "'" ++ operator ++ "' not supported between instances of '" ++ left ++ "' and '" ++ right ++ "'"
  | .notDivisible left right =>
    "unsupported operand type(s) for /: '" ++ left ++ "' and '" ++ right ++ "'"
  | .notSubtracted left right =>
    "unsupported operand type(s) for -: '" ++ left ++ "' and '" ++ right ++ "'"
  | .notJoined kind => "can only concatenate " ++ kind ++ " (not \"str\") to " ++ kind
  | .notHashable kind => "unhashable type: '" ++ kind ++ "'"
  | .notIterable kind => "'" ++ kind ++ "' object is not iterable"
  | .notConvertible kind =>
    "int() argument must be a string, a bytes-like object or a real number, not '" ++ kind ++ "'"
  | .notNumeric kind => "float() argument must be a string or a real number, not '" ++ kind ++ "'"
  | .notATime kind => "not a time, but '" ++ kind ++ "'"
  | .noCount => "the rows were not counted"
  | .unsuitable => "unsuitable operand"

/-- Things that are needed and not there. -/
inductive Absence where
  | activity
  | operation (name : String)
  /-- Values of the kind have no part of the name. -/
  | part (kind name : String)
  deriving DecidableEq, Repr

def Absence.message : Absence → String
  | .activity => "'NoneType' object has no attribute 'token'"
  | .operation name => "there is no operation '" ++ name ++ "'"
  | .part kind name => "'" ++ kind ++ "' object has no attribute '" ++ name ++ "'"

/-- Why a file cannot be read or written, although its path makes sense. -/
inductive PathFault where
  | nameTooLong
  | isDirectory
  /-- Something on the way does not exist. -/
  | missing
  /-- A file stands on the way where a directory is needed. -/
  | notDirectory
  deriving DecidableEq, Repr

namespace PathFault

def number : PathFault → Nat
  | .nameTooLong => 36
  | .isDirectory => 21
  | .missing => 2
  | .notDirectory => 20

def reason : PathFault → String
  | .nameTooLong => "File name too long"
  | .isDirectory => "Is a directory"
  | .missing => "No such file or directory"
  | .notDirectory => "Not a directory"

def message (fault : PathFault) (path : String) : String :=
  "[Errno " ++ toString fault.number ++ "] " ++ fault.reason ++ ": " ++ Text.quoted path

end PathFault

/-- How a query ended without rows. -/
inductive QueryFault where
  | rejected (text : String) (code detail : Option String)
  | cancelled (text : String)
  deriving DecidableEq, Repr

namespace QueryFault

def text : QueryFault → String
  | .rejected text _ _ => text
  | .cancelled text => text

def code : QueryFault → Option String
  | .rejected _ code _ => code
  | .cancelled _ => some "CANCELLED"

def detail : QueryFault → Option String
  | .rejected _ _ detail => detail
  | .cancelled _ => none

/-- A code that is not empty stands in brackets before the text. -/
def message (fault : QueryFault) : String :=
  match fault.code with
  | some code => if code = "" then fault.text else "[" ++ code ++ "] " ++ fault.text
  | none => fault.text

/-- What a query that a token stopped reports. -/
def stopped : QueryFault := .cancelled "Query cancelled"

end QueryFault

inductive Fault where
  | input (fault : InputFault)
  | range (fault : RangeFault)
  | operand (fault : OperandFault)
  | divisionByZero (text : String)
  | query (fault : QueryFault)
  /-- The database refused a statement; `kind` is its name for the reason. -/
  | database (kind text : String)
  /-- Something outside this library failed. -/
  | foreign (text : String)
  | missingPlaceholder (name fragment : String)
  | missingTier (rate : String)
  | missingFragment (path : String)
  | unreadable (fault : PathFault) (path : String)
  | unknownFormat (name : String)
  | unknownHandle (name : String)
  | absent (thing : Absence)
  | indexOutOfRange
  /-- A text has too many characters to be kept. -/
  | noRoom
  deriving DecidableEq, Repr

namespace Fault

def message : Fault → String
  | .input fault => fault.message
  | .range fault => fault.message
  | .operand fault => fault.message
  | .divisionByZero text => text
  | .query fault => fault.message
  | .database _ text => text
  | .foreign text => text
  | .missingPlaceholder name fragment => "No value for placeholder #" ++ name ++ "# in " ++ fragment
  | .missingTier rate => rate
  | .missingFragment path => "Fragment not found: " ++ path
  | .unreadable fault path => fault.message path
  | .unknownFormat name => name
  | .unknownHandle name => name
  | .absent thing => thing.message
  | .indexOutOfRange => "index out of range"
  | .noRoom => ""

/-- The kind of database fault that reports an interrupted statement. -/
def interruptKind : String := "InterruptException"

def isCancellation : Fault → Bool
  | .query (.cancelled _) => true
  | _ => false

/-- Faults that are shown to the user as a mistake in the arguments. -/
def isInput : Fault → Bool
  | .input _ => true
  | _ => false

end Fault

end RequestBreakdown
