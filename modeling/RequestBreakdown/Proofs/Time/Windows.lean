import RequestBreakdown.Proofs.Fault
import RequestBreakdown.Proofs.Time.Calendar
import RequestBreakdown.Proofs.Time.DurationGrammar
import RequestBreakdown.Time.Window

/-!
# What comes of the arguments for a window

A window that is found has its start before its stop.  Where none is found, that is a
mistake of the user, except in two cases: a duration leads away from the calendar, or one
end of the window has an offset and the other has none.
-/

namespace RequestBreakdown

open DurationText

/-! ## Order of timestamps -/

namespace Timestamp

def OnCalendar (ticks : Int) : Prop := 0 ≤ ticks ∧ ticks < tickLimit

/-- Times of which both or neither have an offset, the first being earlier. -/
def Before (t u : Timestamp) : Prop :=
  t.offset.isSome = u.offset.isSome ∧ t.universal < u.universal

variable {t u : Timestamp} {d : Duration}

theorem sub_of_onCalendar (hd : OnCalendar (t.ticks - d.micros)) :
    t.sub d = .ok ⟨(t.ticks - d.micros).toNat, t.offset⟩ := by
  rw [sub, addMicros, ofTicks, ← Int.sub_eq_add_neg]
  exact if_pos hd

theorem sub_of_not_onCalendar (hd : ¬ OnCalendar (t.ticks - d.micros)) :
    t.sub d = .error (.range .date) := by
  rw [sub, addMicros, ofTicks, ← Int.sub_eq_add_neg]
  exact if_neg hd

theorem sub_eq_ok :
    t.sub d = .ok u ↔
      OnCalendar (t.ticks - d.micros) ∧ u = ⟨(t.ticks - d.micros).toNat, t.offset⟩ := by
  by_cases hd : OnCalendar (t.ticks - d.micros)
  · rw [sub_of_onCalendar hd, Except.ok.injEq]
    exact ⟨fun h => ⟨hd, h.symm⟩, fun h => h.2.symm⟩
  · rw [sub_of_not_onCalendar hd]
    constructor
    · intro h
      cases h
    · exact fun h => absurd h.1 hd

theorem before_of_sub (hd : 0 < d.micros) (hsub : t.sub d = .ok u) : u.Before t := by
  obtain ⟨⟨hlow, -⟩, rfl⟩ := sub_eq_ok.mp hsub
  refine ⟨rfl, ?_⟩
  simp only [universal, Int.toNat_of_nonneg hlow]
  omega

theorem le_eq_ok_false : t.le u = .ok false ↔ u.Before t := by
  unfold le Before
  by_cases hoffset : t.offset.isSome = u.offset.isSome
  · simp [hoffset]
  · simp [hoffset, Ne.symm hoffset]

theorem le_of_mixed (hmixed : t.offset.isSome ≠ u.offset.isSome) :
    t.le u = .error (.operand .mixedOffsetsCompared) := by
  rw [le, beq_false_of_ne hmixed]
  rfl

theorem le_of_alike (halike : t.offset.isSome = u.offset.isSome) :
    t.le u = .ok (decide (t.universal ≤ u.universal)) := by
  rw [le, halike, beq_self_eq_true]
  rfl

theorem floorSecond_floorSecond (t : Timestamp) : t.floorSecond.floorSecond = t.floorSecond := by
  have hmod : (t.ticks - t.ticks % microsPerSecond) % microsPerSecond = 0 := by
    unfold microsPerSecond
    omega
  simp only [floorSecond, microsecond, hmod, Nat.sub_zero]

theorem ticks_of_years {now : Timestamp} (hlow : 1900 ≤ now.date.year)
    (hhigh : now.date.year ≤ 2100) :
    microsPerDay * 693595 ≤ now.ticks ∧ now.ticks < microsPerDay * 767375 := by
  have hfirst : daysBeforeYear 1900 ≤ now.ticks / microsPerDay :=
    CivilDate.le_yearOfDay_iff.mp hlow
  have hlast : ¬ daysBeforeYear 2101 ≤ now.ticks / microsPerDay :=
    mt CivilDate.le_yearOfDay_iff.mpr (Nat.not_le.mpr (Nat.lt_succ_of_le hhigh))
  simp only [daysBeforeYear, microsPerDay, microsPerSecond] at hfirst hlast ⊢
  omega

theorem year_mono (hle : t.ticks ≤ u.ticks) : t.date.year ≤ u.date.year := by
  have hday : t.ticks / microsPerDay ≤ u.ticks / microsPerDay := Nat.div_le_div_right hle
  have hfirst := (CivilDate.yearOfDay_bounds (t.ticks / microsPerDay)).2.1
  exact CivilDate.le_yearOfDay_iff.mpr (Nat.le_trans hfirst hday)

end Timestamp

/-! ## Texts of durations -/

namespace Text

theorem trimBy_trimBy (blank : Char → Bool) (cs : List Char) :
    trimBy blank (trimBy blank cs) = trimBy blank cs := by
  obtain ⟨-, -, -, -, -, hfirst, hlast⟩ := isTrimmed_trimBy blank cs
  have hagain : IsTrimmed blank (trimBy blank cs) (trimBy blank cs) :=
    ⟨[], [], by simp, by simp, by simp, hfirst, hlast⟩
  exact hagain.eq_trimBy.symm

theorem trim_trim (s : String) : trim (trim s) = trim s := by
  rw [trim, trim, String.toList_ofList, trimBy_trimBy]

end Text

theorem DurationText.compact_trim (s : String) : compact (Text.trim s) = compact s := by
  rw [compact, compact, Text.trim_trim]

theorem Duration.read?_trim (s : String) : read? (Text.trim s) = read? s := by
  rw [read?, read?, compact_trim]

/-- A text of a duration begins with a digit, and so is not the word for now. -/
theorem DurationText.IsDurationText.not_now {s : String} (hs : IsDurationText (compact s)) :
    Text.trim s ≠ "" ∧ Text.lower (Text.trim s) ≠ "now" := by
  obtain ⟨components, hsome, hspells⟩ := hs
  have hfirst := hspells.head?_not_letter
  constructor
  · intro hempty
    have hnil : compact s = [] := by
      rw [compact, hempty]
      decide +kernel
    exact hsome (hspells.eq_nil_iff.mp hnil)
  · intro hnow
    have hword : compact s = ['n', 'o', 'w'] := by
      rw [compact, hnow]
      decide
    rw [hword] at hfirst
    exact absurd (hfirst 'n' rfl) (by decide)

/-- Reckoned back from now, the duration that the text denotes leaves the calendar, or it is
too long to be one. -/
def ReachesTooFar (text : String) (now : Timestamp) : Prop :=
  IsDurationText (compact text) ∧
    ∀ d, Duration.read? text = .ok (some d) → ¬ Timestamp.OnCalendar (now.ticks - d.micros)

theorem reachesTooFar_of_range {text : String} {now : Timestamp} {fault : RangeFault}
    (htext : IsDurationText (compact text))
    (hread : Duration.read? text = .error (.range fault)) : ReachesTooFar text now := by
  refine ⟨htext, ?_⟩
  intro d hd
  rw [hread] at hd
  cases hd

theorem reachesTooFar_iff {text : String} {now : Timestamp} {d : Duration}
    (htext : IsDurationText (compact text)) (hread : Duration.read? text = .ok (some d)) :
    ReachesTooFar text now ↔ ¬ Timestamp.OnCalendar (now.ticks - d.micros) := by
  simp [ReachesTooFar, htext, hread]

/-- Something was found, or that nothing was is a mistake of the user. -/
def IsFair {α : Type} (outcome : Except Fault α) : Prop :=
  (∃ a, outcome = .ok a) ∨ ∃ fault, outcome = .error (.input fault)

def IsOutOfRange {α : Type} (outcome : Except Fault α) : Prop :=
  ∃ fault, outcome = .error (.range fault)

/-! ## Points in time -/

namespace TimePoint

theorem read_eq (text : String) (now : Timestamp) :
    read text now =
      if Text.trim text = "" then .error (.input .emptyTime)
      else if Text.lower (Text.trim text) = "now" then .ok ⟨now, true⟩
      else match Duration.read? text with
        | .error fault => .error fault
        | .ok (some d) => (now.sub d).map (⟨·, true⟩)
        | .ok none =>
          match readAbsolute? (Text.trim text) with
          | some timestamp => .ok ⟨timestamp, false⟩
          | none => .error (.input (.unreadableTime text)) := by
  rw [read, Duration.read?_trim]
  split
  · rfl
  · split
    · rfl
    · rcases Duration.read? text with fault | _ | d
      · rfl
      · cases readAbsolute? (Text.trim text) with
        | none => rfl
        | some timestamp => rfl
      · rfl

theorem read_cases (text : String) (now : Timestamp) :
    (ReachesTooFar text now ∧ IsOutOfRange (read text now)) ∨
      (¬ ReachesTooFar text now ∧ IsFair (read text now)) := by
  rw [read_eq]
  rcases Duration.read?_cases text with ⟨htext, hread⟩ | ⟨htext, ⟨d, hread⟩ | ⟨fault, hread⟩⟩
  · refine .inr ⟨fun hfar => htext hfar.1, ?_⟩
    rw [hread]
    split
    · exact .inr ⟨_, rfl⟩
    · split
      · exact .inl ⟨_, rfl⟩
      · cases readAbsolute? (Text.trim text) with
        | some timestamp => exact .inl ⟨_, rfl⟩
        | none => exact .inr ⟨_, rfl⟩
  · obtain ⟨hsome, hword⟩ := htext.not_now
    rw [if_neg hsome, if_neg hword, hread, reachesTooFar_iff htext hread]
    by_cases hcalendar : Timestamp.OnCalendar (now.ticks - d.micros)
    · simp only [Timestamp.sub_of_onCalendar hcalendar]
      exact .inr ⟨not_not_intro hcalendar, .inl ⟨_, rfl⟩⟩
    · simp only [Timestamp.sub_of_not_onCalendar hcalendar]
      exact .inl ⟨hcalendar, .date, rfl⟩
  · obtain ⟨hsome, hword⟩ := htext.not_now
    rw [if_neg hsome, if_neg hword, hread]
    exact .inl ⟨reachesTooFar_of_range htext hread, fault, rfl⟩

end TimePoint

/-! ## Windows -/

namespace TimeWindow

variable {range start stop : Option String} {now : Timestamp} {w : TimeWindow}

/-! ### Ranges -/

/-- A range that has no name and reaches too far. -/
def RangeReachesTooFar (key : String) (now : Timestamp) : Prop :=
  timeRanges.lookup key = none ∧ ReachesTooFar key now ∧
    ∀ d, Duration.read? key = .ok (some d) → 0 < d.micros

/-- Named ranges are above zero and no longer than a week. -/
theorem ofMillis_bounds {key : String} {millis : Nat} (hkey : timeRanges.lookup key = some millis) :
    0 < (Duration.ofMillis millis).micros ∧
      (Duration.ofMillis millis).micros ≤ 7 * microsPerDay := by
  have hall : ∀ entry ∈ timeRanges, 0 < (Duration.ofMillis entry.2).micros ∧
      (Duration.ofMillis entry.2).micros ≤ 7 * microsPerDay := by decide
  have hmem : (key, millis) ∈ timeRanges := mem_of_lookup hkey
  exact hall (key, millis) hmem

theorem rangeDuration_of_unnamed {key : String} (hkey : timeRanges.lookup key = none) :
    rangeDuration key =
      match Duration.read? key with
      | .error fault => .error fault
      | .ok (some d) =>
        if 0 < d.micros then .ok d else .error (.input (.unknownTimeRange key))
      | .ok none => .error (.input (.unknownTimeRange key)) := by
  rw [rangeDuration, hkey]
  rcases Duration.read? key with fault | _ | d
  · rfl
  · rfl
  · rfl

theorem rangeDuration_pos {key : String} {d : Duration} (hd : rangeDuration key = .ok d) :
    0 < d.micros := by
  cases hkey : timeRanges.lookup key with
  | some millis =>
      rw [rangeDuration, hkey] at hd
      cases hd
      exact (ofMillis_bounds hkey).1
  | none =>
      rw [rangeDuration_of_unnamed hkey] at hd
      split at hd
      · cases hd
      · split at hd
        · cases hd
          assumption
        · cases hd
      · cases hd

theorem ofRange_before {key : String} (hw : ofRange key now = .ok w) :
    w.start.Before w.stop := by
  obtain ⟨period, hperiod, hrest⟩ := bind_eq_ok.mp hw
  obtain ⟨first, hfirst, hlast⟩ := bind_eq_ok.mp hrest
  cases hlast
  exact Timestamp.before_of_sub (rangeDuration_pos hperiod) hfirst

/-- Now lies on the calendar, with a week before it. -/
def WeekBehind (now : Timestamp) : Prop :=
  7 * microsPerDay ≤ now.ticks ∧ now.ticks < Timestamp.tickLimit

theorem ofRange_eq (key : String) (now : Timestamp) :
    ofRange key now =
      match rangeDuration key with
      | .error fault => .error fault
      | .ok period => (now.floorSecond.sub period).map (⟨·, now.floorSecond⟩) := by
  rw [ofRange]
  rcases rangeDuration key with fault | period
  · rfl
  · rfl

theorem ofRange_cases (key : String) (now : Timestamp) (hnow : WeekBehind now.floorSecond) :
    (RangeReachesTooFar key now.floorSecond ∧ IsOutOfRange (ofRange key now)) ∨
      (¬ RangeReachesTooFar key now.floorSecond ∧ IsFair (ofRange key now)) := by
  rw [ofRange_eq, RangeReachesTooFar]
  cases hkey : timeRanges.lookup key with
  | some millis =>
      obtain ⟨hpos, hweek⟩ := ofMillis_bounds hkey
      obtain ⟨hlow, hhigh⟩ := hnow
      have hcalendar : Timestamp.OnCalendar
          (now.floorSecond.ticks - (Duration.ofMillis millis).micros) := by
        constructor <;> omega
      rw [rangeDuration, hkey]
      simp only [Timestamp.sub_of_onCalendar hcalendar]
      exact .inr ⟨by simp, .inl ⟨_, rfl⟩⟩
  | none =>
      rw [rangeDuration_of_unnamed hkey]
      rcases Duration.read?_cases key with ⟨htext, hread⟩ | ⟨htext, ⟨d, hread⟩ | ⟨fault, hread⟩⟩
      · rw [hread]
        exact .inr ⟨fun hfar => htext hfar.2.1.1, .inr ⟨_, rfl⟩⟩
      · rw [reachesTooFar_iff htext hread, hread]
        by_cases hpos : 0 < d.micros
        · by_cases hcalendar : Timestamp.OnCalendar (now.floorSecond.ticks - d.micros)
          · simp only [if_pos hpos, Timestamp.sub_of_onCalendar hcalendar]
            exact .inr ⟨by simp [hcalendar], .inl ⟨_, rfl⟩⟩
          · simp only [if_pos hpos, Timestamp.sub_of_not_onCalendar hcalendar]
            exact .inl ⟨⟨trivial, hcalendar, by simp [hpos]⟩, .date, rfl⟩
        · simp only [if_neg hpos]
          exact .inr ⟨by simp [hpos], .inr ⟨_, rfl⟩⟩
      · have hfar : ReachesTooFar key now.floorSecond := reachesTooFar_of_range htext hread
        rw [hread]
        exact .inl ⟨⟨rfl, hfar, by simp⟩, fault, rfl⟩

/-! ### Bounds -/

/-- The end that is given, or now. -/
def endPoint (stop : Option String) (now : Timestamp) : Except Fault Timestamp :=
  match given? stop with
  | some stopText => (TimePoint.read stopText now).map (·.timestamp)
  | none => .ok now

theorem resolve_of_range (hstart : given? start = none) :
    resolve range start stop now =
      ofRange ((given? range).getD defaultTimeRange) now.floorSecond := by
  rw [resolve, hstart]

theorem resolve_of_start {startText : String} (hstart : given? start = some startText) :
    resolve range start stop now =
      match TimePoint.read startText now.floorSecond with
      | .error fault => .error fault
      | .ok first =>
        match endPoint stop now.floorSecond with
        | .error fault => .error fault
        | .ok last =>
          match last.le first.timestamp with
          | .error fault => .error fault
          | .ok true => .error (.input (.emptyWindow startText ((given? stop).getD "now")))
          | .ok false => .ok ⟨first.timestamp, last⟩ := by
  have hend : ∀ (first : TimePoint) (last : Timestamp), (do
      if ← last.le first.timestamp then
        throw (Fault.input (.emptyWindow startText ((given? stop).getD "now")))
      return (⟨first.timestamp, last⟩ : TimeWindow)) =
        match last.le first.timestamp with
        | .error fault => .error fault
        | .ok true => .error (.input (.emptyWindow startText ((given? stop).getD "now")))
        | .ok false => .ok ⟨first.timestamp, last⟩ := by
    intro first last
    rcases last.le first.timestamp with fault | _ | _
    · rfl
    · rfl
    · rfl
  unfold resolve endPoint
  simp only [hstart]
  rcases TimePoint.read startText now.floorSecond with fault | first
  · rfl
  · cases hstop : given? stop with
    | none =>
        rw [hstop] at hend
        exact hend first _
    | some stopText =>
        rw [hstop] at hend
        simp only
        rcases TimePoint.read stopText now.floorSecond with fault | last
        · rfl
        · exact hend first _

/-- A window that is found is not empty. -/
theorem resolve_before (hw : resolve range start stop now = .ok w) :
    w.start.Before w.stop := by
  cases hstart : given? start with
  | none =>
      rw [resolve_of_range hstart] at hw
      exact ofRange_before hw
  | some startText =>
      rw [resolve_of_start hstart] at hw
      split at hw
      · cases hw
      · split at hw
        · cases hw
        · split at hw
          · cases hw
          · cases hw
          · cases hw
            exact Timestamp.le_eq_ok_false.mp ‹_›

/-- The end is given as a duration that reaches too far. -/
def EndReachesTooFar (stop : Option String) (now : Timestamp) : Prop :=
  ∃ stopText, given? stop = some stopText ∧ ReachesTooFar stopText now

theorem endPoint_cases (stop : Option String) (now : Timestamp) :
    (EndReachesTooFar stop now ∧ IsOutOfRange (endPoint stop now)) ∨
      (¬ EndReachesTooFar stop now ∧ IsFair (endPoint stop now)) := by
  unfold endPoint EndReachesTooFar
  cases hstop : given? stop with
  | none => exact .inr ⟨by simp, .inl ⟨_, rfl⟩⟩
  | some stopText =>
      rcases TimePoint.read_cases stopText now with ⟨hfar, fault, hread⟩ |
        ⟨hnear, ⟨p, hread⟩ | ⟨fault, hread⟩⟩
      · simp only [hread]
        exact .inl ⟨⟨stopText, rfl, hfar⟩, fault, rfl⟩
      · simp only [hread]
        exact .inr ⟨by simpa using hnear, .inl ⟨_, rfl⟩⟩
      · simp only [hread]
        exact .inr ⟨by simpa using hnear, .inr ⟨_, rfl⟩⟩

/-! ### What goes wrong -/

/-- A duration among the arguments that are looked at reaches too far. -/
def LeavesCalendar (range start stop : Option String) (now : Timestamp) : Prop :=
  match given? start with
  | none => RangeReachesTooFar ((given? range).getD defaultTimeRange) now
  | some startText =>
    ReachesTooFar startText now ∨
      (∃ first, TimePoint.read startText now = .ok first) ∧ EndReachesTooFar stop now

/-- Both bounds can be read, and only one of them has an offset. -/
def MixesOffsets (start stop : Option String) (now : Timestamp) : Prop :=
  ∃ startText first last, given? start = some startText ∧
    TimePoint.read startText now = .ok first ∧ endPoint stop now = .ok last ∧
    first.timestamp.offset.isSome ≠ last.offset.isSome

/-- The three ways in which the search for a window can end, and when it ends so. -/
def EndsAsTold (range start stop : Option String) (now : Timestamp)
    (outcome : Except Fault TimeWindow) : Prop :=
  (LeavesCalendar range start stop now ∧ ¬ MixesOffsets start stop now ∧
    IsOutOfRange outcome) ∨
  (¬ LeavesCalendar range start stop now ∧ MixesOffsets start stop now ∧
    outcome = .error (.operand .mixedOffsetsCompared)) ∨
  (¬ LeavesCalendar range start stop now ∧ ¬ MixesOffsets start stop now ∧ IsFair outcome)

theorem endsAsTold_of_range (hstart : given? start = none) (hnow : WeekBehind now.floorSecond) :
    EndsAsTold range start stop now.floorSecond (resolve range start stop now) := by
  have hmixes : ¬ MixesOffsets start stop now.floorSecond := by
    rintro ⟨startText, -, -, hsome, -⟩
    rw [hstart] at hsome
    cases hsome
  have hleaves : LeavesCalendar range start stop now.floorSecond ↔
      RangeReachesTooFar ((given? range).getD defaultTimeRange) now.floorSecond := by
    rw [LeavesCalendar, hstart]
  have hrange := ofRange_cases ((given? range).getD defaultTimeRange) now.floorSecond
  rw [Timestamp.floorSecond_floorSecond] at hrange
  rw [resolve_of_range hstart, EndsAsTold, hleaves]
  rcases hrange hnow with ⟨hfar, hfault⟩ | ⟨hnear, hfair⟩
  · exact .inl ⟨hfar, hmixes, hfault⟩
  · exact .inr (.inr ⟨hnear, hmixes, hfair⟩)

theorem endsAsTold_of_start {startText : String} (hstart : given? start = some startText) :
    EndsAsTold range start stop now.floorSecond (resolve range start stop now) := by
  have hmixes : MixesOffsets start stop now.floorSecond ↔
      ∃ first last, TimePoint.read startText now.floorSecond = .ok first ∧
        endPoint stop now.floorSecond = .ok last ∧
        first.timestamp.offset.isSome ≠ last.offset.isSome := by
    simp only [MixesOffsets, hstart, Option.some.injEq, exists_and_left, exists_eq_left']
  have hleaves : LeavesCalendar range start stop now.floorSecond ↔
      ReachesTooFar startText now.floorSecond ∨
        (∃ first, TimePoint.read startText now.floorSecond = .ok first) ∧
          EndReachesTooFar stop now.floorSecond := by
    rw [LeavesCalendar, hstart]
  rw [resolve_of_start hstart, EndsAsTold, hmixes, hleaves]
  rcases TimePoint.read_cases startText now.floorSecond with ⟨hfar, fault, hread⟩ |
    ⟨hnear, ⟨first, hread⟩ | ⟨fault, hread⟩⟩
  · simp only [hread]
    exact .inl ⟨.inl hfar, by simp, fault, rfl⟩
  · simp only [hread]
    rcases endPoint_cases stop now.floorSecond with ⟨hfar, fault, hend⟩ |
      ⟨hnear', ⟨last, hend⟩ | ⟨fault, hend⟩⟩
    · simp only [hend]
      exact .inl ⟨.inr ⟨⟨first, rfl⟩, hfar⟩, by simp, fault, rfl⟩
    · simp only [hend]
      by_cases halike : last.offset.isSome = first.timestamp.offset.isSome
      · rw [Timestamp.le_of_alike halike]
        refine .inr (.inr ⟨by simp [hnear, hnear'], by simp [halike], ?_⟩)
        cases decide (last.universal ≤ first.timestamp.universal) with
        | true => exact .inr ⟨_, rfl⟩
        | false => exact .inl ⟨_, rfl⟩
      · rw [Timestamp.le_of_mixed halike]
        exact .inr (.inl ⟨by simp [hnear, hnear'], ⟨first, last, rfl, rfl, Ne.symm halike⟩, rfl⟩)
    · simp only [hend]
      exact .inr (.inr ⟨by simp [hnear, hnear'], by simp, .inr ⟨fault, rfl⟩⟩)
  · simp only [hread]
    exact .inr (.inr ⟨by simp [hnear], by simp, .inr ⟨fault, rfl⟩⟩)

theorem weekBehind_of_years (hlow : 1900 ≤ now.date.year) (hhigh : now.date.year ≤ 2100) :
    WeekBehind now.floorSecond := by
  obtain ⟨hfirst, hlast⟩ := Timestamp.ticks_of_years hlow hhigh
  have hlimit : microsPerDay * 767375 ≤ Timestamp.tickLimit := by decide
  have hmicros : now.microsecond < microsPerSecond := Nat.mod_lt _ (by decide)
  simp only [WeekBehind, Timestamp.floorSecond]
  unfold microsPerDay microsPerSecond at *
  omega

/-- The arguments lead to a window whose start is before its stop, or the user is told of a
mistake, unless a duration leaves the calendar or only one bound has an offset. -/
theorem resolve_fair_iff (range start stop : Option String) (hlow : 1900 ≤ now.date.year)
    (hhigh : now.date.year ≤ 2100) :
    (((∃ w, resolve range start stop now = .ok w ∧ w.start.Before w.stop) ∨
        ∃ fault, resolve range start stop now = .error (.input fault)) ↔
      ¬ LeavesCalendar range start stop now.floorSecond ∧
        ¬ MixesOffsets start stop now.floorSecond) ∧
    ((∃ fault, resolve range start stop now = .error (.range fault)) ↔
      LeavesCalendar range start stop now.floorSecond) ∧
    (resolve range start stop now = .error (.operand .mixedOffsetsCompared) ↔
      MixesOffsets start stop now.floorSecond) := by
  have htold : EndsAsTold range start stop now.floorSecond (resolve range start stop now) := by
    cases hstart : given? start with
    | none => exact endsAsTold_of_range hstart (weekBehind_of_years hlow hhigh)
    | some startText => exact endsAsTold_of_start hstart
  rcases htold with ⟨hleaves, hmixes, fault, hfault⟩ | ⟨hleaves, hmixes, hfault⟩ |
    ⟨hleaves, hmixes, ⟨w, hw⟩ | ⟨fault, hfault⟩⟩
  · simp [hfault, hleaves, hmixes]
  · simp [hfault, hleaves, hmixes]
  · simp [hw, hleaves, hmixes, resolve_before hw]
  · simp [hfault, hleaves, hmixes]

/-- The start of the year 2025. -/
def newYear : Timestamp := ⟨63871286400000000, none⟩

theorem resolve_fair_iff_newYear :
    1900 ≤ newYear.date.year ∧ newYear.date.year ≤ 2100 ∧
      LeavesCalendar none (some "9999999d") none newYear.floorSecond ∧
      MixesOffsets (some "2025-01-01T00:00:00+00:00") none newYear.floorSecond := by
  have hlow : 1900 ≤ newYear.date.year := by decide
  have hhigh : newYear.date.year ≤ 2100 := by decide
  have hlong := (resolve_fair_iff none (some "9999999d") none hlow hhigh).2.1
  have hmixed :=
    (resolve_fair_iff none (some "2025-01-01T00:00:00+00:00") none hlow hhigh).2.2
  refine ⟨hlow, hhigh, hlong.mp ⟨.date, ?_⟩, hmixed.mp ?_⟩
  · decide +kernel
  · decide +kernel

/-- Neither a start too long ago nor one with an offset is taken for a mistake of the user. -/
theorem resolve_breaks_off :
    resolve none (some "9999999d") none newYear = .error (.range .date) ∧
    resolve none (some "99999999999d") none newYear = .error (.range .duration) ∧
    resolve none (some "2025-01-01T00:00:00+00:00") none newYear =
      .error (.operand .mixedOffsetsCompared) := by
  refine ⟨?_, ?_, ?_⟩
  · decide +kernel
  · decide +kernel
  · decide +kernel

end TimeWindow

end RequestBreakdown
