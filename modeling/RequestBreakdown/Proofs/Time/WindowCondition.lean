import RequestBreakdown.Proofs.Time.LiteralTime
import RequestBreakdown.Proofs.Time.Windows

/-!
# What the condition of a window selects

The condition of a window compares a column with two literals.  What is read back from
its text selects the times of the window to the second: a fraction of a second in either
end of the window is not in the text.
-/

namespace RequestBreakdown

/-! ## Reading the condition -/

/-- A column is compared with two times, the first of which is included. -/
structure TimeCondition where
  column : String
  start : Timestamp
  stop : Timestamp
  deriving DecidableEq, Repr

namespace TimeCondition

def ofTokens? : List StatementToken → Option TimeCondition
  | [.word column, .word ">=", .word "TIMESTAMP", .literal start, .word "AND",
      .word again, .word "<", .word "TIMESTAMP", .literal stop] => do
    guard (column = again)
    return ⟨column, ← Timestamp.readIso? start, ← Timestamp.readIso? stop⟩
  | _ => none

def read? (text : String) : Option TimeCondition :=
  ofTokens? (StatementToken.read text.toList)

/-- Whether the condition holds of a row with a time in the column. -/
def Holds (c : TimeCondition) (t : Timestamp) : Prop :=
  c.start.ticks ≤ t.ticks ∧ t.ticks < c.stop.ticks

end TimeCondition

namespace StatementToken

theorem read_quote_last (text : String) : read (Literal.quote text).toList = [.literal text] := by
  rw [read, Lexeme.read_quote, group, String.ofList_toList]
  rfl

end StatementToken

namespace TimeWindow

open StatementToken

/-- Whether a time without an offset lies in a window without offsets. -/
def Contains (w : TimeWindow) (t : Timestamp) : Prop :=
  w.start.ticks ≤ t.ticks ∧ t.ticks < w.stop.ticks

variable {w : TimeWindow} {column : String}

theorem read_condition (hcolumn : IsWord column) :
    StatementToken.read (w.condition column).toList =
      [.word column, .word ">=", .word "TIMESTAMP", .literal w.start.literalText, .word "AND",
        .word column, .word "<", .word "TIMESTAMP", .literal w.stop.literalText] := by
  have hchars : (w.condition column).toList =
      spaced [column, ">=", "TIMESTAMP"] ++ ((Literal.quote w.start.literalText).toList ++
        ' ' :: (spaced ["AND", column, "<", "TIMESTAMP"] ++
          (Literal.quote w.stop.literalText).toList)) := by
    rw [w.start.noQuote_literalText.quote_eq, w.stop.noQuote_literalText.quote_eq]
    simp [condition, spaced]
  have hfront : ∀ word ∈ [column, ">=", "TIMESTAMP"], IsWord word := by
    simp only [List.forall_mem_cons]
    exact ⟨hcolumn, by decide, by decide, by simp⟩
  have hback : ∀ word ∈ ["AND", column, "<", "TIMESTAMP"], IsWord word := by
    simp only [List.forall_mem_cons]
    exact ⟨by decide, hcolumn, by decide, by decide, by simp⟩
  rw [hchars, read_spaced hfront, read_quote, read_spaced hback, read_quote_last]
  rfl

theorem read?_condition (hcolumn : IsWord column) (hstart : w.start.offset = none)
    (hstop : w.stop.offset = none) (hstartLow : 1000 ≤ w.start.date.year)
    (hstartHigh : w.start.date.year ≤ 9999) (hstopLow : 1000 ≤ w.stop.date.year)
    (hstopHigh : w.stop.date.year ≤ 9999) :
    TimeCondition.read? (w.condition column) =
      some ⟨column, w.start.floorSecond, w.stop.floorSecond⟩ := by
  have hfirst := Timestamp.readIso?_literalText hstart hstartLow hstartHigh
  have hlast := Timestamp.readIso?_literalText hstop hstopLow hstopHigh
  rw [TimeCondition.read?, read_condition hcolumn]
  simp [TimeCondition.ofTokens?, hfirst, hlast]

/-! ## Times at the ends -/

/-- Where the condition and the window differ at all, they differ at the start, at its whole
second or at the whole second of the stop. -/
theorem contains_floor_iff (hbefore : w.start.ticks < w.stop.ticks) :
    (∀ t : Timestamp, t.offset = none →
      (w.start.floorSecond.ticks ≤ t.ticks ∧ t.ticks < w.stop.floorSecond.ticks ↔
        w.Contains t)) ↔
      w.start.microsecond = 0 ∧ w.stop.microsecond = 0 := by
  have hfirst : w.start.floorSecond.ticks = w.start.ticks - w.start.microsecond := rfl
  have hlast : w.stop.floorSecond.ticks = w.stop.ticks - w.stop.microsecond := rfl
  have hless : w.start.microsecond ≤ w.start.ticks := Nat.mod_le _ _
  have hless' : w.stop.microsecond ≤ w.stop.ticks := Nat.mod_le _ _
  constructor
  · intro hsame
    have hstart := (hsame ⟨w.start.ticks, none⟩ rfl).mpr ⟨Nat.le_refl _, hbefore⟩
    have hsecond := (hsame ⟨w.start.floorSecond.ticks, none⟩ rfl).mp
      ⟨Nat.le_refl _, Nat.lt_of_le_of_lt hstart.1 hstart.2⟩
    have hstop := mt (hsame ⟨w.stop.floorSecond.ticks, none⟩ rfl).mpr
      fun h => Nat.lt_irrefl _ h.2
    simp only [Contains, hfirst, hlast] at hstart hsecond hstop
    omega
  · rintro ⟨hstart, hstop⟩ t -
    rw [hfirst, hlast, hstart, hstop]
    exact Iff.rfl

/-- What is read back from the condition of a window selects the times of the window, except
where an end of it does not fall on a whole second. -/
theorem condition_selects_iff {range start stop : Option String} {now : Timestamp}
    (hcolumn : IsWord column) (hw : resolve range start stop now = .ok w)
    (hoffset : w.start.offset = none) (hlow : 1000 ≤ w.start.date.year)
    (hhigh : w.stop.date.year ≤ 9999) :
    ∃ c, TimeCondition.read? (w.condition column) = some c ∧ c.column = column ∧
      (∀ t : Timestamp, t.offset = none →
        (c.Holds t ↔
          w.start.floorSecond.ticks ≤ t.ticks ∧ t.ticks < w.stop.floorSecond.ticks)) ∧
      ((∀ t : Timestamp, t.offset = none → (c.Holds t ↔ w.Contains t)) ↔
        w.start.microsecond = 0 ∧ w.stop.microsecond = 0) := by
  obtain ⟨halike, hless⟩ := resolve_before hw
  have hoffset' : w.stop.offset = none := by
    rw [hoffset] at halike
    exact Option.isNone_iff_eq_none.mp (by rw [← Option.not_isSome, ← halike]; rfl)
  have hbefore : w.start.ticks < w.stop.ticks := by
    simpa [Timestamp.universal, hoffset, hoffset'] using hless
  have hyears : w.start.date.year ≤ w.stop.date.year := Timestamp.year_mono hbefore.le
  have hread := read?_condition hcolumn hoffset hoffset' hlow (hyears.trans hhigh)
    (hlow.trans hyears) hhigh
  exact ⟨_, hread, rfl, fun _ _ => Iff.rfl, contains_floor_iff hbefore⟩

/-- Half a second of the first second of the year 2025. -/
def halfSecond : TimeWindow :=
  ⟨⟨63871286400200000, none⟩, ⟨63871286400700000, none⟩⟩

theorem resolve_halfSecond :
    resolve none (some "2025-01-01T00:00:00.200") (some "2025-01-01T00:00:00.700") newYear =
      .ok halfSecond := by
  decide +kernel

theorem condition_selects_iff_halfSecond :
    IsWord "timestamp" ∧ halfSecond.start.offset = none ∧
      1000 ≤ halfSecond.start.date.year ∧ halfSecond.stop.date.year ≤ 9999 ∧
      ∃ c, TimeCondition.read? (halfSecond.condition "timestamp") = some c ∧
        ¬ ∀ t : Timestamp, t.offset = none → (c.Holds t ↔ halfSecond.Contains t) := by
  have hcolumn : IsWord "timestamp" := by decide
  have hlow : 1000 ≤ halfSecond.start.date.year := by decide
  have hhigh : halfSecond.stop.date.year ≤ 9999 := by decide
  obtain ⟨c, hread, -, -, hsame⟩ :=
    condition_selects_iff hcolumn resolve_halfSecond rfl hlow hhigh
  refine ⟨hcolumn, rfl, hlow, hhigh, c, hread, ?_⟩
  intro hall
  exact absurd (hsame.mp hall).1 (by decide)

/-- The window has its middle in it, and its condition selects nothing at all. -/
theorem halfSecond_selects_nothing :
    resolve none (some "2025-01-01T00:00:00.200") (some "2025-01-01T00:00:00.700") newYear =
      .ok halfSecond ∧
    halfSecond.Contains ⟨63871286400500000, none⟩ ∧
    ∃ c, TimeCondition.read? halfSecond.condition = some c ∧ ∀ t, ¬ c.Holds t := by
  refine ⟨resolve_halfSecond, ⟨by decide, by decide⟩, ?_⟩
  refine ⟨⟨"timestamp", ⟨63871286400000000, none⟩, ⟨63871286400000000, none⟩⟩, ?_, ?_⟩
  · decide +kernel
  · rintro t ⟨hlow, hhigh⟩
    exact absurd hlow (Nat.not_le.mpr hhigh)

end TimeWindow

end RequestBreakdown
