import RequestBreakdown.Proofs.Bucket.Selection

/-!
# Ranges and their labels

The clauses of a partition test a value against its boundaries in ascending order,
so the first that holds is the one after the boundaries that the value has reached.
A label is told from all others by its text in front of the first dash: for a range
between two boundaries this is the label of the lower one.
-/

namespace RequestBreakdown

namespace Partition

/-! ## The label of a value -/

theorem getElem?_labels_findIdx (p : Partition) (value : Nat) :
    p.labels[p.clauses.findIdx (·.test.holds value)]? = some (p.labelOf value) := by
  unfold labels labelOf
  cases hfound : p.clauses.find? (·.test.holds value) with
  | none =>
      have hnone : p.clauses.findIdx (·.test.holds value) = p.clauses.length := by
        rw [List.findIdx_eq_length]
        simpa using hfound
      rw [hnone, List.getElem?_append_right (by simp)]
      simp
  | some clause =>
      rw [List.find?_eq_getElem?_findIdx] at hfound
      rw [List.getElem?_append_left, List.getElem?_map, hfound]
      · rfl
      · have hlt := (List.getElem?_eq_some_iff.mp hfound).1
        simpa using hlt

theorem labelOf_mem (p : Partition) (value : Nat) : p.labelOf value ∈ p.labels :=
  List.mem_of_getElem? (p.getElem?_labels_findIdx value)

/-- The first boundary above a value comes after those that the value has reached. -/
theorem findIdx_below {boundaries : List Nat}
    (hascending : boundaries.Pairwise (· < ·)) (value : Nat) :
    (boundaries.map BucketTest.below).findIdx (·.holds value) =
      boundaries.countP (· ≤ value) := by
  induction boundaries with
  | nil => rfl
  | cons b rest ih =>
      obtain ⟨hfirst, hrest⟩ := List.pairwise_cons.mp hascending
      rw [List.map_cons, List.findIdx_cons]
      by_cases hb : value < b
      -- All that follow are above the value as well.
      · have hnone : rest.countP (· ≤ value) = 0 := by
          rw [List.countP_eq_zero]
          intro c hc
          have hbc := hfirst c hc
          simp
          omega
        simp [BucketTest.holds, hb, hnone]
      · have hpassed : (BucketTest.below b).holds value = false := by
          simp [BucketTest.holds, hb]
        have hreached : b ≤ value := by omega
        simp [hpassed, hreached, ih hrest]

theorem tests_rangesBetween (label : Nat → String) (boundaries : List Nat) :
    (rangesBetween label boundaries).map (·.test) =
      boundaries.tail.map BucketTest.below := by
  have hsnd : (boundaries.zip boundaries.tail).map Prod.snd = boundaries.tail :=
    List.map_snd_zip (by simp)
  calc (rangesBetween label boundaries).map (·.test)
      = ((boundaries.zip boundaries.tail).map Prod.snd).map BucketTest.below := by
        rw [rangesBetween, List.map_map, List.map_map]
        rfl
    _ = boundaries.tail.map BucketTest.below := by rw [hsnd]

/-! ## Labels that differ -/

def labelFront (label : String) : List Char := label.toList.takeWhile (· != '-')

/-- The label of a boundary can stand on either side of a dash, and is not that of
the open range. -/
def IsPlainLabel (label : String) : Prop :=
  '-' ∉ label.toList ∧ label.toList.head? ≠ some '≥'

instance (label : String) : Decidable (IsPlainLabel label) :=
  inferInstanceAs (Decidable (_ ∧ _))

theorem labelFront_between {low : String} (hlow : '-' ∉ low.toList)
    (high : String) : labelFront (low ++ "-" ++ high) = low.toList := by
  have hpass : ∀ c ∈ low.toList, (c != '-') = true := by
    intro c hc
    rw [bne_iff_ne]
    rintro rfl
    exact hlow hc
  unfold labelFront
  rw [String.toList_append, String.toList_append, List.append_assoc,
    List.takeWhile_append_of_pos hpass]
  simp

section Labels

variable {label : Nat → String} {boundaries : List Nat}

theorem labelFronts_rangesBetween
    (hplain : ∀ b ∈ boundaries, IsPlainLabel (label b)) :
    (rangesBetween label boundaries).map (labelFront ·.label) =
      boundaries.dropLast.map (fun b => (label b).toList) := by
  induction boundaries with
  | nil => rfl
  | cons b rest ih =>
      cases rest with
      | nil => rfl
      | cons c later =>
          have hrest := ih fun other hother => hplain other (by simp [hother])
          have hfirst := labelFront_between (hplain b List.mem_cons_self).1 (label c)
          rw [List.dropLast_cons_cons, List.map_cons, ← hrest, ← hfirst]
          rfl

theorem labelFront_openLabel (label : Nat → String) (boundaries : List Nat) :
    (labelFront (openLabel label boundaries)).head? = some '≥' := by
  have hfront : (openLabel label boundaries).toList =
      '≥' :: ' ' :: (label (boundaries.getLastD 0)).toList := by
    unfold openLabel
    rw [String.toList_append]
    rfl
  unfold labelFront
  rw [hfront]
  rfl

/-- The labels of a partition differ when those of its boundaries do, and those of
the lowest ranges are different from these. -/
theorem nodup_labels {p : Partition} {lower : List BucketClause}
    (hclauses : p.clauses = lower ++ rangesBetween label boundaries)
    (htop : p.topLabel = openLabel label boundaries)
    (hplain : ∀ b ∈ boundaries, IsPlainLabel (label b))
    (hdistinct : (boundaries.map label).Nodup)
    (hlower : (lower.map (labelFront ·.label)).Nodup)
    (hapart : ∀ clause ∈ lower, (labelFront clause.label).head? ≠ some '≥' ∧
      ∀ b ∈ boundaries, labelFront clause.label ≠ (label b).toList) :
    p.labels.Nodup := by
  apply List.Nodup.of_map labelFront
  have hfronts : p.labels.map labelFront = lower.map (labelFront ·.label) ++
      (boundaries.dropLast.map (fun b => (label b).toList) ++
        [labelFront (openLabel label boundaries)]) := by
    rw [labels, hclauses, htop, ← labelFronts_rangesBetween hplain]
    simp [Function.comp_def]
  have hbetween : (boundaries.dropLast.map fun b => (label b).toList).Nodup := by
    have hall : (boundaries.map fun b => (label b).toList).Nodup := by
      have hnames := hdistinct.map (f := String.toList) fun _ _ => String.toList_inj.mp
      simpa [Function.comp_def] using hnames
    exact hall.sublist ((List.dropLast_sublist boundaries).map _)
  have hopen := labelFront_openLabel label boundaries
  have hbelow : ∀ b ∈ boundaries.dropLast,
      labelFront (openLabel label boundaries) ≠ (label b).toList := by
    intro b hb heq
    rw [heq] at hopen
    exact (hplain b (List.dropLast_subset _ hb)).2 hopen
  rw [hfronts, List.nodup_append, List.nodup_append]
  refine ⟨hlower, ⟨hbetween, List.nodup_singleton _, ?_⟩, ?_⟩
  · intro front hfront other hother
    obtain ⟨b, hb, rfl⟩ := List.mem_map.mp hfront
    obtain rfl := List.mem_singleton.mp hother
    exact (hbelow b hb).symm
  · intro front hfront other hother
    obtain ⟨clause, hclause, rfl⟩ := List.mem_map.mp hfront
    obtain ⟨hnotOpen, hnotBetween⟩ := hapart clause hclause
    rcases List.mem_append.mp hother with hother | hother
    · obtain ⟨b, hb, rfl⟩ := List.mem_map.mp hother
      exact hnotBetween b (List.dropLast_subset _ hb)
    · obtain rfl := List.mem_singleton.mp hother
      intro heq
      exact hnotOpen (heq ▸ hopen)

end Labels

end Partition

/-! ## The two kinds of ranges -/

namespace RangeKind

open RequestBreakdown.Partition

def candidates : RangeKind → List Nat
  | .bytes => Boundary.byteCandidates
  | .durations => Boundary.durationCandidates

def boundaryLabel : RangeKind → Nat → String
  | .bytes => Label.ofBoundary Label.bytes
  | .durations => Label.ofBoundary Label.millis

/-- The ranges up to the first boundary. -/
def lowerClauses (kind : RangeKind) (boundaries : List Nat) : List BucketClause :=
  let first := boundaries.headD 0
  match kind with
  | .bytes => [emptyBody, ⟨.below first, "1 B-" ++ kind.boundaryLabel first⟩]
  | .durations => [⟨.below first, "< " ++ kind.boundaryLabel first⟩]

def zeroTests : RangeKind → List BucketTest
  | .bytes => [.isZero]
  | .durations => []

/-- The place of a value's label among the labels. -/
def place (boundaries : List Nat) (value : Nat) : RangeKind → Nat
  | .bytes => if value = 0 then 0 else 1 + boundaries.countP (· ≤ value)
  | .durations => boundaries.countP (· ≤ value)

/-- How many more labels than boundaries there are. -/
def surplus : RangeKind → Nat
  | .bytes => 2
  | .durations => 1

variable (kind : RangeKind) (n : Int)

theorem clauses_eq : (kind.partition n).clauses =
    kind.lowerClauses (kind.partition n).boundaries ++
      rangesBetween kind.boundaryLabel (kind.partition n).boundaries := by
  cases kind <;> rfl

theorem topLabel_eq : (kind.partition n).topLabel =
    openLabel kind.boundaryLabel (kind.partition n).boundaries := by
  cases kind <;> rfl

theorem boundaries_eq : ∃ count, (kind.partition n).boundaries =
    Boundary.select kind.candidates count := by
  cases kind <;> exact ⟨_, rfl⟩

theorem boundaries_sublist :
    (kind.partition n).boundaries.Sublist kind.candidates := by
  obtain ⟨count, hselect⟩ := kind.boundaries_eq n
  rw [hselect]
  exact Boundary.select_sublist _ count

theorem pairwise_candidates : kind.candidates.Pairwise (· < ·) := by
  cases kind with
  | bytes => exact Boundary.pairwise_byteCandidates
  | durations => exact Boundary.pairwise_durationCandidates

theorem pairwise_boundaries : (kind.partition n).boundaries.Pairwise (· < ·) :=
  kind.pairwise_candidates.sublist (kind.boundaries_sublist n)

theorem boundaries_ne_nil : (kind.partition n).boundaries ≠ [] := by
  have hsome : kind.candidates ≠ [] := by
    cases kind with
    | bytes => simp [candidates, Boundary.byteCandidates_eq]
    | durations => simp [candidates, Boundary.durationCandidates]
  obtain ⟨count, hselect⟩ := kind.boundaries_eq n
  rw [hselect]
  exact Boundary.select_ne_nil hsome count

/-- There is a test for each boundary, and of body sizes one for empty bodies. -/
theorem tests_eq : (kind.partition n).clauses.map (·.test) =
    kind.zeroTests ++ (kind.partition n).boundaries.map BucketTest.below := by
  have hsome := kind.boundaries_ne_nil n
  rw [clauses_eq, List.map_append, tests_rangesBetween]
  cases hboundaries : (kind.partition n).boundaries with
  | nil => exact absurd hboundaries hsome
  | cons b rest => cases kind <;> rfl

theorem length_labels : (kind.partition n).labels.length =
    (kind.partition n).boundaries.length + kind.surplus := by
  have htests := congrArg List.length (kind.tests_eq n)
  rw [List.length_map, List.length_append, List.length_map] at htests
  rw [labels, List.length_append, List.length_map, htests, List.length_singleton]
  cases kind <;> simp only [zeroTests, surplus, List.length_cons, List.length_nil] <;>
    omega

theorem findIdx_tests {boundaries : List Nat}
    (hascending : boundaries.Pairwise (· < ·)) (value : Nat) :
    (kind.zeroTests ++ boundaries.map BucketTest.below).findIdx (·.holds value) =
      kind.place boundaries value := by
  have hbelow := findIdx_below hascending value
  cases kind with
  | durations => exact hbelow
  | bytes =>
      rw [zeroTests, List.singleton_append, List.findIdx_cons, hbelow]
      by_cases hzero : value = 0
      · simp [place, BucketTest.holds, hzero]
      · have hnot : BucketTest.isZero.holds value = false :=
          beq_eq_false_iff_ne.mpr hzero
        simp [place, hnot, hzero, Nat.add_comm]

theorem getElem?_labels_place (value : Nat) :
    (kind.partition n).labels[kind.place (kind.partition n).boundaries value]? =
      some ((kind.partition n).labelOf value) := by
  have hplace := kind.findIdx_tests (kind.pairwise_boundaries n) value
  rw [← tests_eq, List.findIdx_map] at hplace
  rw [← hplace]
  exact (kind.partition n).getElem?_labels_findIdx value

theorem nodup_boundaryLabels : (kind.candidates.map kind.boundaryLabel).Nodup := by
  cases kind with
  | bytes =>
      unfold candidates
      rw [Boundary.byteCandidates_eq]
      decide +kernel
  | durations => decide +kernel

theorem plain_boundaryLabel :
    ∀ b ∈ kind.candidates, IsPlainLabel (kind.boundaryLabel b) := by
  cases kind with
  | bytes =>
      unfold candidates
      rw [Boundary.byteCandidates_eq]
      decide +kernel
  | durations => decide +kernel

theorem labelFront_aboveZero (first : String) :
    labelFront ("1 B-" ++ first) = "1 B".toList := by
  have hdash : '-' ∉ "1 B".toList := by decide
  have hjoined : "1 B" ++ "-" = "1 B-" := by decide
  have hfront := labelFront_between hdash first
  rwa [hjoined] at hfront

/-- The fronts of the lowest labels are unlike those of all others. -/
theorem labelFront_lower (boundaries : List Nat) {clause : BucketClause}
    (hclause : clause ∈ kind.lowerClauses boundaries) :
    (labelFront clause.label).head? ≠ some '≥' ∧
      ∀ b ∈ kind.candidates, labelFront clause.label ≠ (kind.boundaryLabel b).toList := by
  cases kind with
  | bytes =>
      have hfronts : ∀ front ∈ ["0 (empty)".toList, "1 B".toList],
          front.head? ≠ some '≥' ∧ ∀ b ∈ Boundary.byteCandidates,
            front ≠ (Label.ofBoundary Label.bytes b).toList := by
        rw [Boundary.byteCandidates_eq]
        decide +kernel
      apply hfronts
      rcases List.mem_cons.mp hclause with rfl | hclause
      · have hempty : labelFront emptyBody.label = "0 (empty)".toList := by decide
        rw [hempty]
        exact List.mem_cons_self
      · obtain rfl := List.mem_singleton.mp hclause
        rw [labelFront_aboveZero]
        exact List.mem_cons_of_mem _ List.mem_cons_self
  | durations =>
      obtain rfl := List.mem_singleton.mp hclause
      have hhead : (labelFront ("< " ++
          durations.boundaryLabel (boundaries.headD 0))).head? = some '<' := by
        unfold labelFront
        rw [String.toList_append]
        rfl
      have hothers : ∀ b ∈ Boundary.durationCandidates,
          (Label.ofBoundary Label.millis b).toList.head? ≠ some '<' := by
        decide +kernel
      rw [hhead]
      refine ⟨by decide, fun b hb heq => ?_⟩
      rw [heq] at hhead
      exact hothers b hb hhead

theorem nodup_labelFronts_lower (boundaries : List Nat) :
    ((kind.lowerClauses boundaries).map (labelFront ·.label)).Nodup := by
  cases kind with
  | bytes =>
      have hsecond := labelFront_aboveZero (bytes.boundaryLabel (boundaries.headD 0))
      have hdiffer : labelFront emptyBody.label ≠ "1 B".toList := by decide
      rw [lowerClauses, List.map_cons, List.map_cons, List.nodup_cons]
      refine ⟨fun hmem => ?_, List.nodup_singleton _⟩
      exact hdiffer ((List.mem_singleton.mp hmem).trans hsecond)
  | durations => exact List.nodup_singleton _

theorem nodup_labels : (kind.partition n).labels.Nodup := by
  have hsublist := kind.boundaries_sublist n
  apply Partition.nodup_labels (kind.clauses_eq n) (kind.topLabel_eq n)
  · exact fun b hb => kind.plain_boundaryLabel b (hsublist.subset hb)
  · exact kind.nodup_boundaryLabels.sublist (hsublist.map _)
  · exact kind.nodup_labelFronts_lower _
  · intro clause hclause
    obtain ⟨hopen, hothers⟩ := kind.labelFront_lower _ hclause
    exact ⟨hopen, fun b hb => hothers b (hsublist.subset hb)⟩

end RangeKind

end RequestBreakdown
