import RequestBreakdown.Text.LetterCase
import RequestBreakdown.Text.Numeral
import RequestBreakdown.Time.Timestamp

/-!
# Durations as text

A duration is written as a sequence of components such as `2h30m` or `1.5days`:
digits with an optional fraction, then the name of a unit.  Blanks at the ends,
spaces, letter case and one closing `ago` do not matter.
-/

namespace RequestBreakdown

namespace DurationText

/-- Seconds in each unit, by the unit's names. -/
def unitSeconds : List (String × Nat) := [
  ("s", 1), ("sec", 1), ("secs", 1),
  ("m", 60), ("min", 60), ("mins", 60),
  ("h", 3600), ("hr", 3600), ("hour", 3600), ("hours", 3600),
  ("d", 86400), ("day", 86400), ("days", 86400),
  ("w", 604800), ("week", 604800), ("weeks", 604800)]

def isUnitLetter (c : Char) : Bool := decide ('a' ≤ c ∧ c ≤ 'z')

/-- One component: the text of its number and the seconds in its unit. -/
structure Component where
  number : List Char
  unit : Nat
  deriving DecidableEq, Repr

/-- Digits with an optional fraction, and what follows. -/
def spanNumber (cs : List Char) : List Char × List Char :=
  let whole := cs.takeWhile Text.isDecimalDigit
  match cs.dropWhile Text.isDecimalDigit with
  | '.' :: rest =>
    (whole ++ '.' :: rest.takeWhile Text.isDecimalDigit, rest.dropWhile Text.isDecimalDigit)
  | rest => (whole, rest)

theorem length_spanNumber_le (cs : List Char) : (spanNumber cs).2.length ≤ cs.length := by
  have hdrop (l : List Char) : (l.dropWhile Text.isDecimalDigit).length ≤ l.length :=
    (List.dropWhile_suffix _).length_le
  unfold spanNumber
  split
  · rename_i rest heq
    have hcs := hdrop cs
    rw [heq] at hcs
    simp only [List.length_cons] at hcs
    have hrest := hdrop rest
    simp only
    omega
  · exact hdrop cs

def takeComponent? (cs : List Char) : Option (Component × List Char) :=
  let (number, rest) := spanNumber cs
  let name := rest.takeWhile isUnitLetter
  if (cs.takeWhile Text.isDecimalDigit).isEmpty || name.isEmpty then none
  else (unitSeconds.lookup (String.ofList name)).map fun unit =>
    (⟨number, unit⟩, rest.dropWhile isUnitLetter)

theorem length_takeComponent?_lt {cs rest : List Char} {component : Component}
    (h : takeComponent? cs = some (component, rest)) : rest.length < cs.length := by
  unfold takeComponent? at h
  simp only at h
  split at h
  · simp at h
  · rename_i hne
    simp only [Option.map_eq_some_iff, Prod.mk.injEq] at h
    obtain ⟨_, _, _, hrest⟩ := h
    have hname : (spanNumber cs).2.takeWhile isUnitLetter ≠ [] := by
      intro hempty
      simp [hempty] at hne
    have hsplit := congrArg List.length
      (List.takeWhile_append_dropWhile (p := isUnitLetter) (l := (spanNumber cs).2))
    rw [List.length_append, hrest] at hsplit
    have := List.length_pos_iff.mpr hname
    have := length_spanNumber_le cs
    omega

/-- The components of a text that is nothing but components. -/
def components? (cs : List Char) : Option (List Component) :=
  match cs with
  | [] => some []
  | c :: rest =>
    match h : takeComponent? (c :: rest) with
    | none => none
    | some (component, rest) =>
      have := length_takeComponent?_lt h
      (components? rest).map (component :: ·)
termination_by cs.length
decreasing_by exact this

/-- The text without blanks at the ends, capitals, spaces and a closing `ago`. -/
def compact (spec : String) : List Char :=
  let cs := (Text.lower (Text.trim spec)).toList.filter (· != ' ')
  if ['a', 'g', 'o'].isSuffixOf cs then cs.take (cs.length - 3) else cs

def Component.seconds (c : Component) : Binary64 :=
  ((Text.readNumber? (String.ofList c.number)).getD .zero).mul (Binary64.ofInt c.unit)

def totalSeconds (components : List Component) : Binary64 :=
  components.foldl (fun total c => total.add c.seconds) .zero

end DurationText

/-- The duration that a text denotes, or `none` when it denotes none. -/
def Duration.read? (spec : String) : Except Fault (Option Duration) :=
  match DurationText.compact spec with
  | [] => .ok none
  | cs =>
    match DurationText.components? cs with
    | none => .ok none
    | some components => (Duration.ofSeconds (DurationText.totalSeconds components)).map some

end RequestBreakdown
