import RequestBreakdown.Text.Blank
import RequestBreakdown.Text.Digit
import RequestBreakdown.Time.Timestamp

/-!
# Plain dates and times

The forms `2025-1-9 8:05` and `2025-1-9`.  A field is matched by the first of its
forms with which the rest can be matched too, and nothing may follow.
-/

namespace RequestBreakdown

namespace PlainText

/-- All ways to match the front of a text, best first: a value and the rest. -/
abbrev Reader (α : Type) := List Char → List (α × List Char)

def digit : Reader Nat
  | [] => []
  | c :: rest => ((Text.digitValue? c).map fun value => (value, rest)).toList

def plainDigit (low high : Char) : Reader Nat
  | [] => []
  | c :: rest => if low ≤ c ∧ c ≤ high then [(c.toNat - '0'.toNat, rest)] else []

def literal (expected : Char) : Reader Unit
  | [] => []
  | c :: rest => if c = expected then [((), rest)] else []

/-- The second reader takes over where the first one stops. -/
def Reader.chain {α β : Type} (first : Reader α) (next : α → Reader β) : Reader β := fun cs =>
  (first cs).flatMap fun (value, rest) => next value rest

def Reader.yield {α : Type} (value : α) : Reader α := fun cs => [(value, cs)]

def pair (tens ones : Reader Nat) : Reader Nat :=
  tens.chain fun t => ones.chain fun o => .yield (t * 10 + o)

def oneOf (readers : List (Reader Nat)) : Reader Nat := fun cs => readers.flatMap (· cs)

def year : Reader Nat :=
  (pair digit digit).chain fun century => (pair digit digit).chain fun y => .yield (century * 100 + y)

def month : Reader Nat :=
  oneOf [pair (plainDigit '1' '1') (plainDigit '0' '2'),
    pair (plainDigit '0' '0') (plainDigit '1' '9'), plainDigit '1' '9']

def day : Reader Nat :=
  oneOf [pair (plainDigit '3' '3') (plainDigit '0' '1'), pair (plainDigit '1' '2') digit,
    pair (plainDigit '0' '0') (plainDigit '1' '9'), plainDigit '1' '9',
    (literal ' ').chain fun _ => plainDigit '1' '9']

def hour : Reader Nat :=
  oneOf [pair (plainDigit '2' '2') (plainDigit '0' '3'), pair (plainDigit '0' '1') digit, digit]

def minute : Reader Nat := oneOf [pair (plainDigit '0' '5') digit, digit]

def blanks : Reader Unit := fun cs =>
  if (cs.takeWhile Text.isBlank).isEmpty then [] else [((), cs.dropWhile Text.isBlank)]

def date : Reader CivilDate :=
  year.chain fun y => (literal '-').chain fun _ =>
  month.chain fun m => (literal '-').chain fun _ =>
  day.chain fun d => .yield ⟨y, m, d⟩

def dateAndTime : Reader (CivilDate × Nat × Nat) :=
  date.chain fun d => blanks.chain fun _ =>
  hour.chain fun h => (literal ':').chain fun _ =>
  minute.chain fun m => .yield (d, h, m)

/-- The best match, when it leaves nothing. -/
def whole? {α : Type} (reader : Reader α) (s : String) : Option α :=
  match reader s.toList with
  | (value, []) :: _ => some value
  | _ => none

end PlainText

namespace Timestamp

def ofPlain? (date : CivilDate) (hour minute : Nat) : Option Timestamp :=
  if date.isValid then
    some ⟨date.dayNumber * microsPerDay + (hour * 60 + minute) * 60 * microsPerSecond, none⟩
  else none

/-- A plain date with a time, else a plain date. -/
def readPlain? (s : String) : Option Timestamp :=
  ((PlainText.whole? PlainText.dateAndTime s).bind fun (date, hour, minute) =>
    ofPlain? date hour minute) <|>
  ((PlainText.whole? PlainText.date s).bind fun date => ofPlain? date 0 0)

end Timestamp

end RequestBreakdown
