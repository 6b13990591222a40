import Mathlib.Data.List.TakeWhile
import Mathlib.Data.Nat.Digits.Lemmas
import RequestBreakdown.Proofs.Sql.CaseText
import RequestBreakdown.Proofs.Time.Calendar

/-!
# Reading a time literal back

The literal of a time has its date and its clock in fields of digits of fixed width, as
long as the year has four digits.  Reading it gives the time again, except for the
fraction of its second, which the literal does not show.
-/

namespace RequestBreakdown

open IsoText

/-- A field of plain digits of the given width that holds a number. -/
structure Fills (width n : Nat) (cs : List Char) : Prop where
  length : cs.length = width
  digits : ∀ c ∈ cs, c.isDigit = true
  value : Nat.ofDigitChars 10 cs 0 = n

/-! ## Fields -/

theorem fills_toDigits {width n : Nat} (hlength : (Nat.toDigits 10 n).length = width) :
    Fills width n (Nat.toDigits 10 n) :=
  ⟨hlength, fun _ hc => Nat.isDigit_of_mem_toDigits (by decide) (by decide) hc,
    Nat.ofDigitChars_ten_toDigits⟩

namespace Timestamp

theorem toList_padded (width n : Nat) :
    (padded width n).toList =
      List.replicate (width - (Nat.toDigits 10 n).length) '0' ++ Nat.toDigits 10 n := by
  have hzeros : ∀ k, ("".pushn '0' k).toList = List.replicate k '0' := by
    intro k
    rw [String.pushn_eq_repeat_push]
    induction k with
    | zero => rfl
    | succ k ih => rw [Nat.repeat, String.toList_push, ih, List.replicate_succ']
  rw [padded, String.toList_append, hzeros, ← String.length_toList, toList_numeral]

theorem fills_padded {width n : Nat} (hwidth : 0 < width) (hlt : n < 10 ^ width) :
    Fills width n (padded width n).toList := by
  have hshort : (Nat.toDigits 10 n).length ≤ width :=
    (Nat.length_toDigits_le_iff (by decide) hwidth).mpr hlt
  obtain ⟨-, hdigits, hvalue⟩ := fills_toDigits (n := n) rfl
  rw [toList_padded]
  refine ⟨?_, ?_, ?_⟩
  · rw [List.length_append, List.length_replicate]
    omega
  · intro c hc
    rcases List.mem_append.mp hc with hzero | hdigit
    · rw [List.eq_of_mem_replicate hzero]
      rfl
    · exact hdigits c hdigit
  · rw [Nat.ofDigitChars_append, Nat.ofDigitChars_replicate_zero, Nat.mul_zero, hvalue]

theorem fills_year {year : Nat} (hlow : 1000 ≤ year) (hhigh : year ≤ 9999) :
    Fills 4 year (toString year).toList := by
  have hmost : (Nat.toDigits 10 year).length ≤ 4 :=
    (Nat.length_toDigits_le_iff (by decide) (by decide)).mpr (by omega)
  have hleast : ¬ (Nat.toDigits 10 year).length ≤ 3 := by
    rw [Nat.length_toDigits_le_iff (by decide) (by decide)]
    omega
  rw [toList_numeral]
  exact fills_toDigits (by omega)

end Timestamp

/-! ## Reading fields -/

theorem takeDigits?_go {cs : List Char} (hcs : ∀ c ∈ cs, c.isDigit = true) (acc : Nat)
    (rest : List Char) :
    takeDigits?.go acc cs.length (cs ++ rest) = some (Nat.ofDigitChars 10 cs acc, rest) := by
  induction cs generalizing acc with
  | nil => rfl
  | cons c cs ih =>
      have hc := hcs c List.mem_cons_self
      have hrest := ih (fun d hd => hcs d (List.mem_cons_of_mem c hd))
        (acc * 10 + (c.toNat - '0'.toNat))
      rw [List.length_cons, List.cons_append, takeDigits?.go, if_pos hc, hrest,
        Nat.ofDigitChars_cons, Nat.mul_comm]

theorem Fills.takeDigits?_append {width n : Nat} {cs : List Char} (hcs : Fills width n cs)
    (rest : List Char) : takeDigits? width (cs ++ rest) = some (n, rest) := by
  obtain ⟨rfl, hdigits, rfl⟩ := hcs
  exact takeDigits?_go hdigits 0 rest

theorem Fills.exists_two {n : Nat} {cs : List Char} (hcs : Fills 2 n cs) :
    ∃ a b, cs = [a, b] ∧ a.isDigit = true ∧ b.isDigit = true := by
  obtain ⟨a, b, rfl⟩ := List.length_eq_two.mp hcs.length
  exact ⟨a, b, rfl, hcs.digits a (by simp), hcs.digits b (by simp)⟩

namespace IsoText

variable {year month day hour minute second : Nat} {ys ms ds hs ns ss : List Char}

theorem readDate?_fields (hyear : Fills 4 year ys) (hmonth : Fills 2 month ms)
    (hday : Fills 2 day ds) (hvalid : CivilDate.isValid ⟨year, month, day⟩ = true) :
    readDate? (ys ++ '-' :: (ms ++ '-' :: ds)) = some ⟨year, month, day⟩ := by
  have hmiddle := hmonth.takeDigits?_append ('-' :: ds)
  have hlast := hday.takeDigits?_append []
  rw [List.append_nil] at hlast
  unfold readDate?
  simp only [hyear.takeDigits?_append, Option.bind_eq_bind, Option.bind_some]
  split
  · -- A week would begin with a letter where the month has its first digit.
    rename_i rest hweek
    obtain ⟨a, b, rfl, ha, -⟩ := hmonth.exists_two
    cases hweek
    cases ha
  · simp [hmiddle, hlast, hvalid]

theorem length_date (hyear : Fills 4 year ys) (hmonth : Fills 2 month ms) (hday : Fills 2 day ds) :
    (ys ++ '-' :: (ms ++ '-' :: ds)).length = 10 := by
  simp [hyear.length, hmonth.length, hday.length]

theorem dateLength?_fields (hyear : Fills 4 year ys) (hmonth : Fills 2 month ms)
    (hday : Fills 2 day ds) (rest : List Char) :
    dateLength? ((ys ++ '-' :: (ms ++ '-' :: ds)) ++ rest) = some 10 := by
  have hlong : ((ys ++ '-' :: (ms ++ '-' :: ds)) ++ rest).length ≠ 7 := by
    rw [List.length_append, length_date hyear hmonth hday]
    omega
  obtain ⟨p, q, r, s, rfl⟩ := List.length_eq_four.mp hyear.length
  obtain ⟨a, b, rfl, ha, -⟩ := hmonth.exists_two
  have hweek : a ≠ 'W' := by
    rintro rfl
    cases ha
  unfold dateLength?
  simp only [if_neg hlong]
  simp [hweek]

theorem afterField_colon {rest : List Char} (hrest : rest ≠ []) :
    afterField true (':' :: rest) = .field rest := by
  obtain ⟨c, more, rfl⟩ := List.exists_cons_of_ne_nil hrest
  rfl

theorem readClock?_fields (hhour : Fills 2 hour hs) (hminute : Fills 2 minute ns)
    (hsecond : Fills 2 second ss) :
    readClock? (hs ++ ':' :: (ns ++ ':' :: ss)) = some (⟨hour, minute, second, 0⟩, false) := by
  have hlast := hsecond.takeDigits?_append []
  rw [List.append_nil] at hlast
  have hsome : ss ≠ [] := by
    rintro rfl
    cases hsecond.length
  have hfirst : afterField true (':' :: (ns ++ ':' :: ss)) = .field (ns ++ ':' :: ss) :=
    afterField_colon (by simp)
  unfold readClock?
  simp only [hhour.takeDigits?_append, hminute.takeDigits?_append, hlast, hfirst,
    afterField_colon hsome, Option.bind_eq_bind, Option.bind_some, List.head?_cons,
    beq_self_eq_true]
  rfl

theorem isOffsetSign_of_isDigit {c : Char} (hc : c.isDigit = true) : isOffsetSign c = false := by
  rw [← Bool.not_eq_true]
  intro hsign
  simp only [isOffsetSign, Bool.or_eq_true, decide_eq_true_eq] at hsign
  rcases hsign with (rfl | rfl) | rfl
  · cases hc
  · cases hc
  · cases hc

theorem readTime?_fields (hhour : Fills 2 hour hs) (hminute : Fills 2 minute ns)
    (hsecond : Fills 2 second ss) :
    readTime? (hs ++ ':' :: (ns ++ ':' :: ss)) = some (⟨hour, minute, second, 0⟩, none) := by
  have hclock := readClock?_fields hhour hminute hsecond
  have hsign : ∀ c ∈ hs ++ ':' :: (ns ++ ':' :: ss), (!isOffsetSign c) = true := by
    intro c hc
    simp only [List.mem_append, List.mem_cons] at hc
    rw [Bool.not_eq_true']
    rcases hc with hc | rfl | hc | rfl | hc
    · exact isOffsetSign_of_isDigit (hhour.digits c hc)
    · rfl
    · exact isOffsetSign_of_isDigit (hminute.digits c hc)
    · rfl
    · exact isOffsetSign_of_isDigit (hsecond.digits c hc)
  have htake : (hs ++ ':' :: (ns ++ ':' :: ss)).takeWhile (!isOffsetSign ·) = _ :=
    List.takeWhile_eq_self_iff.mpr hsign
  have hdrop : (hs ++ ':' :: (ns ++ ':' :: ss)).dropWhile (!isOffsetSign ·) = [] :=
    List.dropWhile_eq_nil_iff.mpr hsign
  unfold readTime?
  simp only [htake, hdrop, hclock, Option.bind_eq_bind, Option.bind_some]
  rfl

end IsoText

namespace Timestamp

theorem literalText_toList (t : Timestamp) :
    t.literalText.toList =
      ((toString t.date.year).toList ++
          '-' :: ((padded 2 t.date.month).toList ++ '-' :: (padded 2 t.date.day).toList)) ++
        ' ' :: ((padded 2 t.hour).toList ++
          ':' :: ((padded 2 t.minute).toList ++ ':' :: (padded 2 t.second).toList)) := by
  simp [literalText, clockText]

/-- The parts of the clock of a time make up its whole seconds. -/
theorem floorSecond_ticks (t : Timestamp) :
    t.floorSecond.ticks = t.ticks / microsPerDay * microsPerDay +
      (t.hour * 3600 + t.minute * 60 + t.second) * microsPerSecond := by
  simp only [floorSecond, microsecond, hour, minute, second, secondOfDay, microsPerDay,
    microsPerSecond]
  omega

theorem readIso?_of_parts {s : String} {front rest : List Char} {separator : Char}
    {date : CivilDate} {clock : Clock} {offset : Option Int}
    (hs : s.toList = front ++ separator :: rest) (hfront : front.length = 10)
    (hlength : dateLength? (front ++ separator :: rest) = some 10)
    (hdate : readDate? front = some date) (htime : readTime? rest = some (clock, offset))
    (hvalid : clock.isValid = true) : readIso? s = some (ofParts date clock.ticks offset) := by
  have hlong : 7 ≤ (front ++ separator :: rest).length := by
    rw [List.length_append, hfront]
    omega
  unfold readIso?
  simp only [hs, hlength, guard_true, hlong, Option.bind_eq_bind, Option.bind_some,
    List.take_left' hfront, List.drop_left' hfront, hdate, htime, hvalid]
  rfl

/-- A time without an offset is read back from its literal to the second. -/
theorem readIso?_literalText {t : Timestamp} (hoffset : t.offset = none)
    (hlow : 1000 ≤ t.date.year) (hhigh : t.date.year ≤ 9999) :
    readIso? t.literalText = some t.floorSecond := by
  obtain ⟨-, -, hmonth, -, hday, -⟩ := CivilDate.ofDayNumber_spec (t.ticks / microsPerDay)
  have hlength := monthLength_le t.date.year t.date.month
  obtain ⟨hhour, hminute, hsecond⟩ : t.hour < 24 ∧ t.minute < 60 ∧ t.second < 60 := by
    simp only [hour, minute, second, secondOfDay, microsPerDay, microsPerSecond]
    omega
  have hfield : ∀ n < 100, Fills 2 n (padded 2 n).toList := fun n hn =>
    fills_padded (by decide) hn
  have hyears := fills_year hlow hhigh
  have hmonths := hfield t.date.month (Nat.lt_of_le_of_lt hmonth (by decide))
  have hdays := hfield t.date.day
    (Nat.lt_of_le_of_lt (Nat.le_trans hday hlength) (by decide))
  have hdate := readDate?_fields hyears hmonths hdays (CivilDate.isValid_ofDayNumber hhigh)
  have htime := readTime?_fields (hfield t.hour (by omega)) (hfield t.minute (by omega))
    (hfield t.second (by omega))
  have hvalid : Clock.isValid ⟨t.hour, t.minute, t.second, 0⟩ = true :=
    decide_eq_true ⟨hhour, hminute, hsecond⟩
  rw [readIso?_of_parts (literalText_toList t) (length_date hyears hmonths hdays)
    (dateLength?_fields hyears hmonths hdays _) hdate htime hvalid]
  have hparts : CivilDate.dayNumber ⟨t.date.year, t.date.month, t.date.day⟩ =
      t.ticks / microsPerDay :=
    CivilDate.dayNumber_ofDayNumber _
  have hfloor : t.floorSecond = ⟨t.floorSecond.ticks, none⟩ := by
    rw [← hoffset]
    rfl
  rw [ofParts, hparts, hfloor, floorSecond_ticks, Clock.ticks, Nat.add_zero]

end Timestamp

end RequestBreakdown
