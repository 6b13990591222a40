import RequestBreakdown.Bucket.Partition
import RequestBreakdown.Text.Numeral
import RequestBreakdown.Value.Text
import RequestBreakdown.Value.Use

/-!
# Breakdowns

A breakdown divides the requests by one dimension and shows the largest groups.
Its dimension is a fixed expression or a numeric column cut into ranges, whose
number is the number of rows asked for.
-/

namespace RequestBreakdown

/-- The two ways of cutting a numeric column into ranges. -/
inductive RangeKind where
  | bytes
  | durations
  deriving DecidableEq, Repr

def RangeKind.partition : RangeKind → Int → Partition
  | .bytes => Partition.bytes
  | .durations => Partition.durations

/-- The number of ranges, given as one that need not be whole.  A number with a fraction
makes sense only where it asks for one boundary or for all of them. -/
def RangeKind.countOf (kind : RangeKind) (n : Value) : Except Fault Int := do
  let n ← n.asNumber
  let (candidates, apart) := match kind with
    | .bytes => (Boundary.byteCandidates, Partition.bytesApart)
    | .durations => (Boundary.durationCandidates, Partition.durationsApart)
  let all := apart + candidates.length
  match n.integer? with
  | some i => return i
  | none =>
    if !(Number.int (apart + 1)).lt n then return 1
    if (Number.int all).le n then return all
    throw (.operand .unsuitable)

/-- The partition into a number of ranges as it is given. -/
def RangeKind.partitionOf (kind : RangeKind) (n : Value) : Except Fault Partition :=
  (kind.countOf n).map kind.partition

inductive Dimension where
  | expression (value : Value)
  | ranges (kind : RangeKind) (column : String)
  deriving DecidableEq, Repr

namespace Dimension

def isBucketed : Dimension → Bool
  | .expression _ => false
  | .ranges .. => true

/-- The expression to group by when `topN` rows are asked for. -/
def resolve (topN : Int) : Dimension → Value
  | .expression value => value
  | .ranges kind column => (kind.partition topN).expression column

def labels? (topN : Int) : Dimension → Option (List String)
  | .expression _ => none
  | .ranges kind _ => some (kind.partition topN).labels

/-- How many ranges there are when some number of rows is asked for.  A fixed expression
has none, whatever the number. -/
def rangeCount (topN : Value) : Dimension → Except Fault Int
  | .expression _ => .ok 0
  | .ranges kind _ => kind.countOf topN

/-- The expression to group by when some number of rows is asked for. -/
def resolveFor (topN : Value) (d : Dimension) : Except Fault Value :=
  (d.rangeCount topN).map (d.resolve ·)

end Dimension

/-- How the shown value of a row becomes the value of a filter. -/
inductive ValueTransform where
  /-- The number in front of a network's name. -/
  | networkNumber
  /-- The pattern of a family: a star stands for any text. -/
  | familyPattern
  deriving DecidableEq, Repr

/-- The number in front of the first space: `15169 Some Network` is 15169. -/
def readNetworkNumber (value : Value) : Except Fault Int :=
  Value.toInt (.text (String.ofList (value.display.toList.takeWhile (· != ' '))))

/-- A family's pattern: `image/*` matches as `image/%`. -/
def familyPatternOf (value : Value) : String :=
  value.display.map fun c => if c = '*' then '%' else c

def ValueTransform.apply : ValueTransform → Value → Except Fault Value
  | .networkNumber, value => (readNetworkNumber value).map .int
  | .familyPattern, value => .ok (.text (familyPatternOf value))

/-- What a breakdown shows and how.  Each part is kept as it is given; one that may be left
out is left out by whatever counts as absent. -/
structure Breakdown where
  id : Value
  title : Value
  dimension : Dimension
  /-- The column that filters test instead of the dimension. -/
  filterColumn : Value := .null
  filterOperator : Value := "="
  valueTransform : Option ValueTransform := none
  extraPredicate : Value := .null
  /-- Whether there are many groups. -/
  highCardinality : Value := .flag false
  /-- The column whose ranges are shown. -/
  rawColumn : Value := .null
  orderBy : Value := .null
  summaryPredicate : Value := .null
  /-- What the summary is called. -/
  summaryLabel : Value := .null
  /-- What the texts of groups may begin with that is shown dimmed, as a list. -/
  labelPrefixes : Value := .null
  /-- The name of the switch between counting requests and summing bytes. -/
  modeToggle : Value := .null
  deriving DecidableEq, Repr

namespace Breakdown

def isBucketed (b : Breakdown) : Bool := b.dimension.isBucketed

/-- The expression shown when `topN` rows are asked for. -/
def column (b : Breakdown) (topN : Int) : Value := b.dimension.resolve topN

/-- Whether it has so many groups that samples come first. -/
def hasManyGroups (b : Breakdown) : Bool := b.highCardinality.isPresent

/-- Whether its rows count what the summary is about. -/
def hasSummary (b : Breakdown) : Bool := b.summaryPredicate.isPresent

end Breakdown

end RequestBreakdown
