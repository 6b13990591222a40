import RequestBreakdown.Proofs.Backend.TierTables
import RequestBreakdown.Proofs.Load.Stages
import RequestBreakdown.Proofs.Value.NumberOrder

/-!
# Plans

A plan goes from coarse to fine and ends at the finest rate that is still kept for
data of its age, which is never finer for older data.  Its stages read tables that
there are, or sample the table with all requests.
-/

namespace RequestBreakdown

namespace SampleRate

theorem ceiling_antitone {age older : Number} (hage : age.le older = true) :
    (ceiling older).le (ceiling age) = true := by
  have hdown : ∀ rate ∈ ladder, hundredth.le rate = true ∧ rate.le full = true ∧
      rate.le rate = true := by
    decide +kernel
  obtain ⟨hlowest, hhighest, hsame⟩ := hdown _ (ceiling_mem age)
  by_cases hold : (Number.ofNat (20 * weekMillis)).le older = true
  · have holder : ceiling older = hundredth := if_pos hold
    rw [holder]
    exact hlowest
  · have hyoung : ¬ (Number.ofNat (20 * weekMillis)).le age = true :=
      fun hle => hold (Number.le_trans hle hage)
    by_cases hmiddle : (Number.ofNat (2 * weekMillis)).le age = true
    · have heq : ceiling older = ceiling age := by
        unfold ceiling
        rw [if_neg hold, if_neg hyoung, if_pos hmiddle,
          if_pos (Number.le_trans hmiddle hage)]
      rw [heq]
      exact hsame
    · have hfull : ceiling age = full := by
        unfold ceiling
        rw [if_neg hyoung, if_neg hmiddle]
      rw [hfull]
      exact (hdown _ (ceiling_mem older)).2.1

end SampleRate

/-- The rates go up to a ceiling; there is more than one only over more than an hour of
many values. -/
structure CoarseToFine (highCardinality : Bool) (period : Number) (ceiling : Binary64)
    (rates : List Number) : Prop where
  ne_nil : rates ≠ []
  increasing : rates.Pairwise fun rate finer => rate.lt finer = true
  kept : ∀ rate ∈ rates, rate.le (.real ceiling) = true
  finest : rates.getLast? = some (.real ceiling)
  -- Not-a-number is the length of no period, and compares to no hour.
  several : 1 < rates.length → highCardinality = true ∧
    (period ≠ .real .nan → (Number.ofNat hourMillis).lt period = true)

/-- What a stage reads, when the table with all requests and the tables of the samples
are given. -/
def SamplingStage.Reads (s : SamplingStage) (base : String) (tiers : List (String × Nat)) :
    SamplingMode → Prop
  | .tables => s.clause = "" ∧
      ((s.source = .text base ∧ s.rate = .real SampleRate.full ∧ s.multiplier = 1) ∨
        ∃ tier ∈ tiers, s.source = .text tier.1 ∧ s.multiplier = tier.2)
  | .clause => s.source = .text base ∧ (s.clause ≠ "" ↔ s.isSampled = true)

namespace SamplingPlanner

/-! ## Rates -/

theorem rates_cases (highCardinality : Bool) (period : Number) (age : Option Number) :
    let ceiling := SampleRate.ceiling (age.getD period)
    rates highCardinality period age = [ceiling] ∨
      highCardinality = true ∧ period.le (.ofNat hourMillis) = false ∧
        rates highCardinality period age = SampleRate.ladder.filter (·.le ceiling) := by
  intro ceiling
  unfold rates
  by_cases hfew : (!highCardinality || period.le (.ofNat hourMillis)) = true
  · exact .inl (if_pos hfew)
  · have hmany := hfew
    simp only [Bool.or_eq_true, Bool.not_eq_true', not_or, Bool.not_eq_false,
      Bool.not_eq_true] at hmany
    exact .inr ⟨hmany.1, hmany.2, if_neg hfew⟩

theorem coarseToFine_rates (highCardinality : Bool) (period : Number) (age : Option Number) :
    CoarseToFine highCardinality period (SampleRate.ceiling (age.getD period))
      ((rates highCardinality period age).map .real) := by
  have hmem := SampleRate.ceiling_mem (age.getD period)
  have hladder : ∀ ceiling ∈ SampleRate.ladder,
      let climb := (SampleRate.ladder.filter (·.le ceiling)).map Number.real
      (Number.real ceiling).le (.real ceiling) = true ∧
        climb.Pairwise (fun rate finer => rate.lt finer = true) ∧
        (∀ rate ∈ climb, rate.le (.real ceiling) = true) ∧
        climb.getLast? = some (.real ceiling) := by
    decide +kernel
  obtain ⟨hsame, hincreasing, hkept, hfinest⟩ := hladder _ hmem
  have hsome : (rates highCardinality period age).map Number.real ≠ [] := by
    simpa using rates_ne_nil highCardinality period age
  rcases rates_cases highCardinality period age with hone | ⟨hhigh, hlong, hclimb⟩
  · rw [hone] at hsome ⊢
    constructor
    case ne_nil => exact hsome
    case increasing => exact List.pairwise_singleton _ _
    case kept => simpa using hsame
    case finest => rfl
    case several => simp
  · rw [hclimb] at hsome ⊢
    constructor
    case ne_nil => exact hsome
    case increasing => exact hincreasing
    case kept => exact hkept
    case finest => exact hfinest
    case several =>
        intro _
        refine ⟨hhigh, fun hnumber => ?_⟩
        exact Number.lt_of_not_le hlong hnumber (by simp [Number.ofNat])

/-! ## Stages -/

section Reads

variable {rate : Binary64} (base : String)

theorem tier_of_mem_ladder (hrate : rate ∈ SampleRate.ladder) :
    ∃ multiplier ending, SampleRate.multiplier (.real rate) = .ok multiplier ∧
      SampleRate.tableSuffix? (.real rate) = some ending ∧
      ((ending = "" ∧ rate = SampleRate.full ∧ multiplier = 1) ∨
        ∃ tier ∈ tierTables base, base ++ ending = tier.1 ∧ multiplier = tier.2) := by
  have hsuffixes : SampleRate.ladder.map (fun rate => SampleRate.tableSuffix? (.real rate)) =
      [some "_sampled_1", some "_sampled_10", some ""] := by
    decide +kernel
  have hone : SampleRate.multiplier (.real SampleRate.full) = .ok 1 := by
    decide +kernel
  simp only [SampleRate.ladder, List.map_cons, List.map_nil, List.cons.injEq,
    and_true] at hsuffixes
  obtain ⟨hhundredth, htenth, hfull⟩ := hsuffixes
  rw [SampleTiers.tables_eq]
  simp only [SampleRate.ladder, List.mem_cons, List.not_mem_nil, or_false] at hrate
  rcases hrate with rfl | rfl | rfl
  · refine ⟨100, _, SampleTiers.multiplier_hundredth, hhundredth, .inr ?_⟩
    exact ⟨_, List.mem_cons_of_mem _ List.mem_cons_self, rfl, rfl⟩
  · refine ⟨10, _, SampleTiers.multiplier_tenth, htenth, .inr ?_⟩
    exact ⟨_, List.mem_cons_self, rfl, rfl⟩
  · exact ⟨1, _, hone, hfull, .inl ⟨rfl, rfl, rfl⟩⟩

theorem exists_stage_reads (mode : SamplingMode) (hrate : rate ∈ SampleRate.ladder) :
    ∃ found, stage ⟨mode, .text base⟩ (.real rate) = .ok found ∧
      found.rate = .real rate ∧ found.Reads base (tierTables base) mode := by
  obtain ⟨multiplier, ending, hmultiplier, hending, htier⟩ := tier_of_mem_ladder base hrate
  cases mode with
  | tables =>
      refine ⟨_, stage_tables hmultiplier hending, rfl, rfl, ?_⟩
      rcases htier with ⟨rfl, rfl, rfl⟩ | ⟨tier, hmem, hname, hkept⟩
      · exact .inl ⟨by rw [String.append_empty], rfl, rfl⟩
      · exact .inr ⟨tier, hmem, by rw [hname], hkept⟩
  | clause =>
      have hpercents : ∀ rate ∈ SampleRate.ladder,
          (SampleRate.percentText (.real rate)).toOption.isSome = true ∧
            (Number.int 1).le (.real rate) = !(Number.real rate).lt (.int 1) := by
        decide +kernel
      obtain ⟨hpercent, hwhole⟩ := hpercents rate hrate
      cases hfound : SampleRate.percentText (.real rate) with
      | error fault =>
          rw [hfound] at hpercent
          cases hpercent
      | ok percent =>
          refine ⟨_, stage_clause hmultiplier hfound, rfl, rfl, ?_⟩
          unfold SamplingStage.isSampled
          dsimp only
          rw [hwhole]
          cases (Number.real rate).lt (.int 1) with
          | false => simp
          | true => simp [← String.toList_inj]

end Reads

theorem plan_spec (mode : SamplingMode) (base : String) (highCardinality : Bool)
    (period : Number) (age : Option Number) :
    ∃ stages, plan ⟨mode, .text base⟩ highCardinality period age = .ok stages ∧
      stages.map (·.rate) = (rates highCardinality period age).map .real ∧
      ∀ stage ∈ stages, stage.Reads base (tierTables base) mode := by
  obtain ⟨stages, hplan, hstages⟩ := exists_mapM fun rate hrate =>
    exists_stage_reads base mode (rates_subset highCardinality period age rate hrate)
  refine ⟨stages, hplan, ?_, forall_right_of_forall₂ hstages fun _ _ h => h.2⟩
  rw [← List.forall₂_eq_eq_eq, List.forall₂_map_left_iff, List.forall₂_map_right_iff]
  exact (hstages.imp fun _ _ h => h.1).flip

theorem finest_of_plan {mode : SamplingMode} {base : String} {highCardinality : Bool}
    {period : Number} {age : Option Number} {stages : List SamplingStage}
    (hplan : plan ⟨mode, .text base⟩ highCardinality period age = .ok stages)
    {last : SamplingStage} (hlast : last ∈ stages.getLast?) :
    last.rate = .real (SampleRate.ceiling (age.getD period)) := by
  obtain ⟨found, hfound, hrates, -⟩ := plan_spec mode base highCardinality period age
  obtain rfl : found = stages := Except.ok.inj (hfound.symm.trans hplan)
  have hfinest := (coarseToFine_rates highCardinality period age).finest
  rw [← hrates, List.getLast?_map, Option.mem_def.mp hlast] at hfinest
  exact Option.some.inj hfinest

/-- Every plan has stages from coarse to fine that read what there is, and it ends with
a rate that is no finer when the data is older. -/
theorem plan_coarse_to_fine (mode : SamplingMode) (base : String) (highCardinality : Bool)
    (period : Number) (age : Option Number) :
    ∃ stages tiers,
      plan ⟨mode, .text base⟩ highCardinality period age = .ok stages ∧
      ({ baseTable := .text base } : SampleTiers).tables = .ok tiers ∧
      CoarseToFine highCardinality period (SampleRate.ceiling (age.getD period))
        (stages.map (·.rate)) ∧
      (∀ stage ∈ stages, stage.Reads base tiers mode) ∧
      ∀ highCardinality' period' age' later,
        (age.getD period).le (age'.getD period') = true →
        plan ⟨mode, .text base⟩ highCardinality' period' age' = .ok later →
        ∀ last ∈ stages.getLast?, ∀ last' ∈ later.getLast?,
          last'.rate.le last.rate = true := by
  obtain ⟨stages, hplan, hrates, hreads⟩ := plan_spec mode base highCardinality period age
  refine ⟨stages, tierTables base, hplan, rfl, ?_, hreads, ?_⟩
  · rw [hrates]
    exact coarseToFine_rates highCardinality period age
  · intro highCardinality' period' age' later hage hlater last hlast last' hlast'
    rw [finest_of_plan hplan hlast, finest_of_plan hlater hlast']
    exact SampleRate.ceiling_antitone hage

end SamplingPlanner

end RequestBreakdown
