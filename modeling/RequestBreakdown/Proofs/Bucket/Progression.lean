import Mathlib.Algebra.Order.Ring.Int
import Mathlib.Tactic.Ring
import RequestBreakdown.Bucket.Boundary

/-!
# The 1/2/5 progression

The boundaries of a progression are found by a loop over the decades, which takes ten
times as much for the next start as for the last.  From a positive number the loop ends:
it takes a round for each decade that starts within the limit.  The last decade can reach
beyond the limit, so what is found is cut there; what remains are all the numbers of the
progression up to the limit, in ascending order.
-/

namespace RequestBreakdown.Boundary

/-- The boundaries of the decade that starts at a number. -/
def decade (start : Int) : List Int := [start, start * 2, start * 5]

/-- The boundaries of so many decades, one after the other. -/
def decadesFrom (start : Int) (rounds : Nat) : List Int :=
  (List.range rounds).flatMap fun k => decade (start * 10 ^ k)

/-- From a start and what was found before, the loop over the decades ends after so many
rounds with all that is found.  It stops where the next decade would start above the limit;
else a round adds the decade, and the loop goes on from ten times its start. -/
inductive EndsAfter (limit : Int) : Nat → Int → List Int → List Int → Prop where
  | past {start : Int} {found : List Int} (habove : limit < start) :
      EndsAfter limit 0 start found found
  | round {rounds : Nat} {start : Int} {found all : List Int} (hwithin : start ≤ limit)
      (hrest : EndsAfter limit rounds (start * 10) (found ++ decade start) all) :
      EndsAfter limit (rounds + 1) start found all

variable {start limit n : Int} {rounds : Nat} {found all : List Int}

/-! ## Decades -/

theorem mem_decade_iff :
    n ∈ decade start ↔ ∃ factor ∈ ([1, 2, 5] : List Int), n = factor * start := by
  simp [decade, mul_comm]

theorem pairwise_decade (hstart : 0 < start) : (decade start).Pairwise (· < ·) := by
  have hdouble : start < start * 2 := by omega
  have hfivefold : start < start * 5 := by omega
  have hbetween : start * 2 < start * 5 := by omega
  simp [decade, hdouble, hfivefold, hbetween]

theorem bounds_of_mem_decade (hstart : 0 < start) (hn : n ∈ decade start) :
    start ≤ n ∧ n ≤ start * 5 := by
  simp only [decade, List.mem_cons, List.not_mem_nil, or_false] at hn
  omega

theorem decade_start_pos (hstart : 0 < start) (k : Nat) : 0 < start * 10 ^ k :=
  Int.mul_pos hstart (Int.pow_pos (by decide))

theorem decade_start_mono (hstart : 0 < start) {j k : Nat} (hjk : j ≤ k) :
    start * 10 ^ j ≤ start * 10 ^ k :=
  Int.mul_le_mul_of_nonneg_left (pow_le_pow_right₀ (by decide) hjk) hstart.le

theorem decadesFrom_succ (start : Int) (rounds : Nat) :
    decadesFrom start (rounds + 1) = decade start ++ decadesFrom (start * 10) rounds := by
  have hnext (k : Nat) : start * 10 ^ (k + 1) = start * 10 * 10 ^ k := by ring
  rw [decadesFrom, List.range_succ_eq_map, List.flatMap_cons, List.flatMap_map]
  simp only [hnext, pow_zero, mul_one]
  rfl

theorem mem_decadesFrom_iff :
    n ∈ decadesFrom start rounds ↔ ∃ k < rounds, n ∈ decade (start * 10 ^ k) := by
  simp only [decadesFrom, List.mem_flatMap, List.mem_range]

theorem pairwise_decadesFrom (hstart : 0 < start) (rounds : Nat) :
    (decadesFrom start rounds).Pairwise (· < ·) := by
  rw [decadesFrom, List.pairwise_flatMap]
  constructor
  · intro k _
    exact pairwise_decade (decade_start_pos hstart k)
  · refine List.pairwise_lt_range.imp fun {j k} hjk low hlow high hhigh => ?_
    -- The lower decade ends at five times its start, the next one starts at ten times.
    have hpositive : 0 < start * 10 ^ j := decade_start_pos hstart j
    have hlater : start * 10 ^ (j + 1) ≤ start * 10 ^ k := decade_start_mono hstart hjk
    have hnext : start * 10 ^ (j + 1) = start * 10 ^ j * 10 := by ring
    have hmost : low ≤ start * 10 ^ j * 5 := (bounds_of_mem_decade hpositive hlow).2
    have hleast : start * 10 ^ k ≤ high :=
      (bounds_of_mem_decade (decade_start_pos hstart k) hhigh).1
    omega

/-! ## The loop -/

namespace EndsAfter

theorem all_eq (hends : EndsAfter limit rounds start found all) :
    all = found ++ decadesFrom start rounds := by
  induction hends with
  | past habove => exact (List.append_nil _).symm
  | round hwithin hrest ih => rw [ih, decadesFrom_succ, List.append_assoc]

/-- There is a round for each decade that starts within the limit. -/
theorem lt_rounds_iff (hends : EndsAfter limit rounds start found all) (hstart : 0 < start)
    (k : Nat) : k < rounds ↔ start * 10 ^ k ≤ limit := by
  induction hends generalizing k with
  | @past start found habove =>
      have hfirst : start * 10 ^ 0 ≤ start * 10 ^ k := decade_start_mono hstart k.zero_le
      omega
  | @round rounds start found all hwithin hrest ih =>
      cases k with
      | zero =>
          rw [pow_zero, mul_one]
          exact iff_of_true rounds.succ_pos hwithin
      | succ k =>
          have hnext : start * 10 ^ (k + 1) = start * 10 * 10 ^ k := by ring
          rw [hnext, ← ih (by omega) k]
          omega

/-- All that is found are the boundaries of the decades that start within the limit. -/
theorem mem_iff (hends : EndsAfter limit rounds start [] all) (hstart : 0 < start) :
    n ∈ all ↔ ∃ k : Nat, start * 10 ^ k ≤ limit ∧ n ∈ decade (start * 10 ^ k) := by
  rw [hends.all_eq, List.nil_append, mem_decadesFrom_iff]
  simp only [hends.lt_rounds_iff hstart]

theorem start_le_of_mem (hends : EndsAfter limit rounds start [] all) (hstart : 0 < start)
    (hn : n ∈ all) : start ≤ n := by
  obtain ⟨k, -, hdecade⟩ := (hends.mem_iff hstart).mp hn
  calc start = start * 10 ^ 0 := by rw [pow_zero, mul_one]
    _ ≤ start * 10 ^ k := decade_start_mono hstart k.zero_le
    _ ≤ n := (bounds_of_mem_decade (decade_start_pos hstart k) hdecade).1

theorem pos_or_lt (hends : EndsAfter limit rounds start found all) :
    0 < start ∨ limit < start := by
  induction hends with
  | past habove => exact .inr habove
  | round hwithin _ ih => omega

end EndsAfter

/-! ## The progression -/

theorem exists_endsAfter_decades {first : Nat} (hfirst : 0 < first) (limit : Nat)
    (found : List Int) :
    ∃ rounds, EndsAfter limit rounds first found
      (found ++ (decades first limit).map Nat.cast) := by
  induction first using decades.induct limit generalizing found with
  | case1 first hwithin ih =>
      obtain ⟨rounds, hrest⟩ := ih (by omega) (found ++ decade first)
      have hdecades : found ++ (decades first limit).map Nat.cast =
          found ++ decade first ++ (decades (first * 10) limit).map Nat.cast := by
        rw [decades, if_pos hwithin]
        simp [decade]
      rw [hdecades]
      exact ⟨rounds + 1, .round (by omega) (by exact_mod_cast hrest)⟩
  | case2 first hover =>
      refine ⟨0, ?_⟩
      rw [decades, if_neg hover, List.map_nil, List.append_nil]
      exact .past (by omega)

/-- What the loop finds, cut to what lies between the first number and the limit, is the
progression. -/
theorem exists_endsAfter_progression {first : Int} (hfirst : 0 < first) (limit : Int) :
    ∃ rounds all, EndsAfter limit rounds first [] all ∧
      (progressionBetween first limit).map Nat.cast =
        all.filter fun n => first ≤ n ∧ n ≤ limit := by
  by_cases hover : limit < first
  · refine ⟨0, [], .past hover, ?_⟩
    rw [progressionBetween, if_pos hover]
    rfl
  · lift first to ℕ using hfirst.le
    lift limit to ℕ using by omega
    have hpositive : 0 < first := by exact_mod_cast hfirst
    obtain ⟨rounds, hends⟩ := exists_endsAfter_decades hpositive limit []
    rw [List.nil_append] at hends
    refine ⟨rounds, _, hends, ?_⟩
    rw [progressionBetween, if_neg hover, Int.toNat_natCast, Int.toNat_natCast, progression,
      List.filter_map]
    congr 1
    refine List.filter_congr fun n hn => ?_
    -- Nothing is found below the first number, so only the limit cuts.
    have hfirst_le : (first : Int) ≤ n :=
      hends.start_le_of_mem hfirst (List.mem_map_of_mem hn)
    simp only [Function.comp_apply, decide_eq_decide]
    omega

/-- Below one the next start is never larger than the last, so the loop goes on without
end unless it starts above the limit. -/
theorem exists_endsAfter_iff (start limit : Int) :
    (∃ rounds all, EndsAfter limit rounds start [] all) ↔ 0 < start ∨ limit < start := by
  constructor
  · rintro ⟨rounds, all, hends⟩
    exact hends.pos_or_lt
  · rintro (hstart | habove)
    · obtain ⟨rounds, all, hends, -⟩ := exists_endsAfter_progression hstart limit
      exact ⟨rounds, all, hends⟩
    · exact ⟨0, [], .past habove⟩

/-- From a positive number the loop ends, after a round for each decade that starts within
the limit.  What it found, cut to the limit, is the progression: it ascends strictly, and
its members are all the multiples of the first number by one, two or five times a power of
ten that the limit allows. -/
theorem progressionOf_complete {first : Int} (hfirst : 1 ≤ first) (limit : Int) :
    ∃ rounds all terms, EndsAfter limit rounds first [] all ∧
      (∀ k, k < rounds ↔ first * 10 ^ k ≤ limit) ∧
      terms = all.filter (fun n => first ≤ n ∧ n ≤ limit) ∧
      progressionOf (.int first) (.int limit) = terms.map .int ∧
      terms.Pairwise (· < ·) ∧
      ∀ n, n ∈ terms ↔
        (∃ factor ∈ ([1, 2, 5] : List Int), ∃ k : Nat, n = factor * first * 10 ^ k) ∧
          n ≤ limit := by
  have hpositive : 0 < first := hfirst
  obtain ⟨rounds, all, hends, hterms⟩ := exists_endsAfter_progression hpositive limit
  refine ⟨rounds, all, _, hends, hends.lt_rounds_iff hpositive, rfl, ?_, ?_, fun n => ?_⟩
  · rw [← hterms, List.map_map]
    rfl
  · rw [hends.all_eq]
    exact (pairwise_decadesFrom hpositive rounds).filter _
  · rw [List.mem_filter, decide_eq_true_iff]
    constructor
    · rintro ⟨hfound, -, hlimit⟩
      obtain ⟨k, -, hdecade⟩ := (hends.mem_iff hpositive).mp hfound
      obtain ⟨factor, hfactor, rfl⟩ := mem_decade_iff.mp hdecade
      exact ⟨⟨factor, hfactor, k, by ring⟩, hlimit⟩
    · rintro ⟨⟨factor, hfactor, k, rfl⟩, hlimit⟩
      have hdecade : factor * first * 10 ^ k ∈ decade (first * 10 ^ k) :=
        mem_decade_iff.mpr ⟨factor, hfactor, by ring⟩
      have hwithin : first * 10 ^ k ≤ factor * first * 10 ^ k :=
        (bounds_of_mem_decade (decade_start_pos hpositive k) hdecade).1
      have hfound : factor * first * 10 ^ k ∈ all :=
        (hends.mem_iff hpositive).mpr ⟨k, hwithin.trans hlimit, hdecade⟩
      exact ⟨hfound, hends.start_le_of_mem hpositive hfound, hlimit⟩

/-- The second of two rounds finds a boundary above the limit, which is cut. -/
theorem progressionOf_complete_cutDecade :
    (1 : Int) ≤ 3 ∧
      progressionOf (.int 3) (.int 70) = ([3, 6, 15, 30, 60] : List Int).map .int ∧
      (∀ n, n ∈ ([3, 6, 15, 30, 60] : List Int) ↔
        (∃ factor ∈ ([1, 2, 5] : List Int), ∃ k : Nat, n = factor * 3 * 10 ^ k) ∧ n ≤ 70) ∧
      ∃ all, EndsAfter 70 2 3 [] all ∧ 150 ∈ all := by
  have hfirst : (1 : Int) ≤ 3 := by decide
  obtain ⟨rounds, all, terms, hends, hrounds, -, hprogression, -, hmem⟩ :=
    progressionOf_complete hfirst 70
  have hsecond : 1 < rounds := (hrounds 1).mpr (by decide)
  have hlast : ¬ 2 < rounds := (hrounds 2).not.mpr (by decide)
  obtain rfl : rounds = 2 := by omega
  have hfound : 150 ∈ all := (hends.mem_iff (by decide)).mpr ⟨1, by decide, by decide⟩
  have hvalue : progressionOf (.int 3) (.int 70) =
      ([3, 6, 15, 30, 60] : List Int).map .int := by
    simp [progressionOf, progressionBetween, progression, decades, Number.ofNat]
  have hterms : terms = [3, 6, 15, 30, 60] :=
    (List.map_inj_right fun _ _ => Number.int.inj).mp (hprogression.symm.trans hvalue)
  subst hterms
  exact ⟨hfirst, hvalue, hmem, all, hends, hfound⟩

end RequestBreakdown.Boundary
