import RequestBreakdown.Proofs.Load.LookupValues
import RequestBreakdown.Proofs.Load.StageEnds
import RequestBreakdown.Proofs.Result.CountOrder

/-!
# What a look-up adds

A stage without ranges shows the rows of its main query, and behind them the rows of
its look-up whose groups the main query did not have.  The look-up is made just in
case some filter has a value that is missing.  A look-up that fails takes nothing
away.
-/

namespace RequestBreakdown

namespace LoadStep

/-- The step shows a table first, with some rows and totals. -/
def ShowsRows (step : LoadStep) (rows : List Row) (totals : Value) : Prop :=
  ∃ table later, step.renderings = .table table :: later ∧ table.rows = rows ∧
    table.totals = totals

/-- The step asks for the missing values of a stage. -/
def LooksUp (step : LoadStep) (place : StagePlace) : Prop :=
  ∃ found, step.load.point = .backfill place found

end LoadStep

namespace Backfill

/-- The rows of a look-up whose groups are not among those of some rows, marked. -/
def addedRows (rows found : List Row) : List Row :=
  (found.filter fun row => decide (∀ other ∈ rows,
    (other.get "dim").display ≠ (row.get "dim").display)).map
      (·.set "is_filtered_value" (.flag true))

section Rearranged

variable {shown rows : List Row}

/-- What a result has does not depend on the order of its rows. -/
theorem containsGroup_perm (hperm : shown.Perm rows) (text : String) :
    containsGroup shown text = containsGroup rows text := by
  rw [Bool.eq_iff_iff]
  simp only [containsGroup, List.any_eq_true, hperm.mem_iff]

theorem query?_perm (hperm : shown.Perm rows) (r : LoadRequest) (modes : CountingModes)
    (stage : SamplingStage) (filters : List Filter) :
    query? r modes stage filters shown = query? r modes stage filters rows := by
  have hmissing : missingFilters r filters shown = missingFilters r filters rows := by
    simp only [missingFilters, containsGroup_perm hperm]
  simp only [query?, hmissing]

theorem extraRows_perm (hperm : shown.Perm rows) (found : List Row) :
    extraRows shown found = addedRows rows found := by
  unfold extraRows addedRows
  congr 2
  funext row
  rw [containsGroup_perm hperm, Bool.eq_iff_iff, Bool.not_eq_true',
    containsGroup_eq_false, decide_eq_true_iff]
  rfl

end Rearranged

end Backfill

namespace Load

variable {load : Load} {place : StagePlace} {main : TimedResult} {rows : List Row}

/-- The rows of a main query in the order that they are shown in. -/
def shownRows (request : LoadRequest) (place : StagePlace) (rows : List Row) : List Row :=
  if request.isApproximate place.stage place.isLast then rows.mergeSort Rows.inCountOrder
  else rows

/-- The result of a main query as it is shown. -/
def shownResult (request : LoadRequest) (place : StagePlace) (rows : List Row)
    (main : TimedResult) : StageResult :=
  ⟨shownRows request place rows, main.totals, main.elapsed⟩

theorem shownRows_perm (request : LoadRequest) (place : StagePlace) (rows : List Row) :
    (shownRows request place rows).Perm rows := by
  unfold shownRows
  split
  · exact List.mergeSort_perm rows _
  · exact List.Perm.refl rows

theorem arrange_eq (place : StagePlace) (hranges : load.request.isContinuous = false)
    (hrows : Row.listOf main.rows = .ok rows)
    (hcounts : ∀ row ∈ rows, Rows.HasIntegerCount row) :
    arrange load.request place main.rows = .ok (shownRows load.request place rows) := by
  unfold arrange shownRows
  rw [hranges]
  split
  · exact Rows.rankItems_eq hrows hcounts
  · exact hrows

/-- The share of the summary, where one is shown, can be computed from the totals. -/
def HasShare (load : Load) (totals : Value) : Prop :=
  load.request.breakdown.hasSummary = true →
    ∃ ratio, Rows.summaryRatio totals = .ok ratio

theorem point_fail (load : Load) (progress : Progress) (current : Bool)
    (fault : Fault) : (load.fail progress current fault).load.point = .ended := by
  unfold fail
  split
  · rfl
  · dsimp only
    split <;> rfl

theorem point_enterStage (load : Load) (modes : CountingModes) (progress : Progress)
    (current : Bool) (index : Nat) (stages : List SamplingStage) (place : StagePlace)
    (found : StageResult) :
    (load.enterStage modes progress current index stages).load.point ≠
      .backfill place found := by
  cases stages with
  | nil => simp [enterStage, finish]
  | cons stage later =>
      unfold enterStage
      dsimp only
      split
      · rw [point_fail]
        simp
      · simp

theorem complete_shows (modes : CountingModes) (progress : Progress)
    (place : StagePlace) {result : StageResult} (hshare : load.HasShare result.totals) :
    (load.complete modes progress place result).ShowsRows result.rows result.totals ∧
      ¬ (load.complete modes progress place result).LooksUp place := by
  have hratio : ∃ ratio, load.summaryRatio result = .ok ratio := by
    unfold summaryRatio
    split
    · rename_i hsummary
      exact hshare hsummary
    · exact ⟨none, rfl⟩
  obtain ⟨ratio, hratio⟩ := hratio
  unfold complete
  rw [hratio]
  refine ⟨⟨_, _, rfl, rfl, rfl⟩, ?_⟩
  rintro ⟨found, hpoint⟩
  exact point_enterStage _ _ _ _ _ _ _ _ hpoint

section Stage

variable {modes : CountingModes} (progress : Progress)

theorem resume_main (hpoint : load.point = .main place)
    (hranges : load.request.isContinuous = false)
    (hrows : Row.listOf main.rows = .ok rows)
    (hcounts : ∀ row ∈ rows, Rows.HasIntegerCount row)
    (hmodes : load.request.modeFault? modes = none) :
    load.resume modes progress true (.ok main) =
      match Backfill.query? load.request modes place.stage load.filters rows with
      | none => load.complete modes progress place
          (shownResult load.request place rows main)
      | some query => load.waiting
          (.backfill place (shownResult load.request place rows main)) progress
          query := by
  have harrange := arrange_eq place hranges hrows hcounts
  rw [← Backfill.query?_perm (shownRows_perm load.request place rows)]
  unfold resume receive backfillQuery?
  rw [hpoint]
  simp only [if_true, harrange, hranges, Bool.false_eq_true, if_false, hmodes]
  cases Backfill.query? load.request modes place.stage load.filters
    (shownRows load.request place rows) <;> rfl

theorem resume_backfill_ok {found : StageResult} (hpoint : load.point = .backfill place found)
    {extra : TimedResult} {others : List Row} (hextra : Row.listOf extra.rows = .ok others)
    (hshare : load.HasShare found.totals) :
    (load.resume modes progress true (.ok extra)).ShowsRows
      (found.rows ++ Backfill.extraRows found.rows others) found.totals := by
  have hfilled : withBackfill found (.ok extra) =
      .ok { found with rows := found.rows ++ Backfill.extraRows found.rows others } := by
    simp only [withBackfill, hextra, bind, Except.bind]
    rfl
  have hresume : load.resume modes progress true (.ok extra) =
      load.complete modes progress place
        { found with rows := found.rows ++ Backfill.extraRows found.rows others } := by
    unfold resume
    rw [hpoint]
    simp [isCancelled, hfilled]
  have hall : load.HasShare ({ found with
      rows := found.rows ++ Backfill.extraRows found.rows others }).totals := hshare
  rw [hresume]
  exact (complete_shows modes progress place hall).1

theorem resume_backfill_error {found : StageResult}
    (hpoint : load.point = .backfill place found) {fault : Fault}
    (hfault : fault.isCancellation = false) (hshare : load.HasShare found.totals) :
    (load.resume modes progress true (.error fault)).ShowsRows found.rows
      found.totals := by
  have hresume : load.resume modes progress true (.error fault) =
      load.complete modes progress place found := by
    unfold resume
    rw [hpoint]
    simp [isCancelled, hfault, withBackfill]
  rw [hresume]
  exact (complete_shows modes progress place hshare).1

end Stage

/-- What a stage without ranges shows, and what it looks up: whatever its main query has
found, with integer counts of which the share of the summary can be computed, and
whatever the filters on texts and integers are. -/
theorem backfill_adds_missing (progress : Progress) {modes : CountingModes}
    (hpoint : load.point = .main place) (hranges : load.request.isContinuous = false)
    (hrows : Row.listOf main.rows = .ok rows)
    (hcounts : ∀ row ∈ rows, Rows.HasIntegerCount row)
    (hvalues : ∀ f ∈ load.filters, f.HasPlainValues)
    (hmodes : load.request.modeFault? modes = none)
    (htotals : Rows.HasIntegerTotals main.totals)
    (hshare : load.request.breakdown.hasSummary = true →
      Rows.summaryRatio main.totals ≠ .error (.range .quotient)) :
    ∃ shown : List Row, shown.Perm rows ∧
      (load.request.isApproximate place.stage place.isLast = false → shown = rows) ∧
      (load.request.isApproximate place.stage place.isLast = true →
        shown = rows.mergeSort Rows.inCountOrder ∧
          shown.Pairwise (Rows.inCountOrder · · = true)) ∧
      ((load.resume modes progress true (.ok main)).LooksUp place ↔
        ∃ f ∈ load.filters, f.IsMissing load.request.column rows) ∧
      (¬ (load.resume modes progress true (.ok main)).LooksUp place →
        (load.resume modes progress true (.ok main)).ShowsRows shown main.totals) ∧
      ((load.resume modes progress true (.ok main)).LooksUp place →
        (∃ (column : Value) (literals : List String),
          column = (if load.request.decomposed then load.request.column
            else load.request.breakdown.filterColumn.orElse load.request.column) ∧
          literals.Nodup ∧
          (∀ text, text ∈ literals ↔ ∃ f ∈ load.filters,
            f.IsMissing load.request.column rows ∧ text = Literal.ofValue
              (if f.sqlColumn.same column then f.sqlValue else f.value)) ∧
          (load.resume modes progress true (.ok main)).query =
            some (Query.lookupText load.request.column.display column.display literals
              (load.request.aggregations modes place.stage) place.stage
              load.request.condition)) ∧
        (load.resume modes progress true (.ok main)).renderings = [] ∧
        ∀ (later : CountingModes) (reached : Progress),
          (∀ (extra : TimedResult) (found : List Row),
            Row.listOf extra.rows = .ok found →
            ((load.resume modes progress true (.ok main)).load.resume later reached
              true (.ok extra)).ShowsRows (shown ++ Backfill.addedRows rows found)
                main.totals) ∧
          ∀ fault : Fault, fault.isCancellation = false →
            ((load.resume modes progress true (.ok main)).load.resume later reached
              true (.error fault)).ShowsRows shown main.totals) := by
  have hresume := resume_main progress hpoint hranges hrows hcounts hmodes
  have hratio : load.HasShare main.totals := fun hsummary =>
    (Rows.summaryRatio_cases htotals).resolve_right (hshare hsummary)
  have hperm := shownRows_perm load.request place rows
  refine ⟨shownRows load.request place rows, hperm, ?_, ?_, ?_⟩
  · intro hexact
    simp [shownRows, hexact]
  · intro happroximate
    have hsorted : shownRows load.request place rows =
        rows.mergeSort Rows.inCountOrder := by
      simp [shownRows, happroximate]
    rw [hsorted]
    exact ⟨rfl, Rows.pairwise_sorted rows⟩
  by_cases hsome : ∃ f ∈ load.filters, f.IsMissing load.request.column rows
  · rw [Backfill.query?_of_missing modes place.stage hvalues hsome] at hresume
    dsimp only at hresume
    have hlooks : (load.resume modes progress true (.ok main)).LooksUp place := by
      rw [hresume]
      exact ⟨_, rfl⟩
    refine ⟨iff_of_true hlooks hsome, absurd hlooks, fun _ => ⟨?_, ?_, ?_⟩⟩
    · obtain ⟨hnodup, hmem⟩ := Backfill.literals_spec load.request hvalues rows
      refine ⟨_, _, rfl, hnodup, hmem, ?_⟩
      rw [hresume]
      rfl
    · rw [hresume]
      rfl
    · intro later reached
      let asked : Load := { load with
        point := .backfill place (shownResult load.request place rows main) }
      have hasked : asked.HasShare (shownResult load.request place rows main).totals :=
        hratio
      have hpoint : asked.point =
          .backfill place (shownResult load.request place rows main) := rfl
      rw [hresume]
      refine ⟨fun extra found hfound => ?_, fun fault hfault => ?_⟩
      · rw [← Backfill.extraRows_perm hperm]
        exact resume_backfill_ok reached hpoint hfound hasked
      · exact resume_backfill_error reached hpoint hfault hasked
  · have hnone := Backfill.query?_of_none_missing modes place.stage
      fun f hf hmissing => hsome ⟨f, hf, hmissing⟩
    rw [hnone] at hresume
    dsimp only at hresume
    have hresult : load.HasShare (shownResult load.request place rows main).totals :=
      hratio
    obtain ⟨hshows, hends⟩ := complete_shows modes progress place hresult
    rw [hresume]
    exact ⟨iff_of_false hends hsome, fun _ => hshows, fun hlooks => absurd hlooks hends⟩

/-! ## A host that is missing -/

def hostsRequest : LoadRequest where
  breakdown := { id := "breakdown-hosts", title := "Hosts", dimension := .expression "host" }
  column := "host"
  decomposed := false
  condition := "1=1"
  totalsCondition := "1=1"
  topN := 5
  stages := [SamplingStage.whole "requests"]

def hostsPlace : StagePlace := ⟨0, SamplingStage.whole "requests", []⟩

def rareHostLoad : Load :=
  ⟨hostsRequest, [{ column := "host", value := "rare.com" }], .main hostsPlace⟩

def hostsProgress : Progress := { breakdownId := "breakdown-hosts" }

def commonHostRow : Row := ⟨[("dim", "a.com"), ("cnt", .int 10)]⟩

def rareHostRow : Row := ⟨[("dim", "rare.com"), ("cnt", .int 1)]⟩

def commonHosts : TimedResult where
  rows := .list [commonHostRow.value]
  totals := .record [("dim", .null), ("cnt", .int 11)]
  elapsed := .zero

def rareHosts : TimedResult where
  rows := .list [rareHostRow.value, commonHostRow.value]
  elapsed := .zero

/-- The rare host is looked up, and of what the look-up finds only it is added. -/
theorem backfill_adds_rare_host :
    (rareHostLoad.resume (.record []) hostsProgress true (.ok commonHosts)).LooksUp
      hostsPlace ∧
    ((rareHostLoad.resume (.record []) hostsProgress true
      (.ok commonHosts)).load.resume (.record []) hostsProgress true
        (.ok rareHosts)).ShowsRows
          [commonHostRow, rareHostRow.set "is_filtered_value" (.flag true)]
          commonHosts.totals := by
  have hcounts : ∀ row ∈ [commonHostRow], Rows.HasIntegerCount row := by
    intro row hrow
    obtain rfl := List.mem_singleton.mp hrow
    exact ⟨10, by decide +kernel⟩
  have hvalues : ∀ f ∈ rareHostLoad.filters, f.HasPlainValues := by
    intro f hf
    obtain rfl := List.mem_singleton.mp hf
    exact ⟨trivial, .inl rfl⟩
  have htotals : Rows.HasIntegerTotals commonHosts.totals := by
    intro given hgiven
    obtain rfl := Option.some.inj hgiven
    exact ⟨_, rfl, ⟨11, by decide +kernel⟩, .inl (by decide +kernel)⟩
  have hshare : rareHostLoad.request.breakdown.hasSummary = true →
      Rows.summaryRatio commonHosts.totals ≠ .error (.range .quotient) :=
    fun hsummary => absurd hsummary (by decide +kernel)
  have hmissing : ∃ f ∈ rareHostLoad.filters,
      f.IsMissing rareHostLoad.request.column [commonHostRow] := by
    refine ⟨_, List.mem_singleton_self _, by decide +kernel, by decide +kernel, ?_⟩
    intro row hrow
    obtain rfl := List.mem_singleton.mp hrow
    decide +kernel
  have hpoint : rareHostLoad.point = .main hostsPlace := rfl
  have hranges : rareHostLoad.request.isContinuous = false := by decide +kernel
  have hrows : Row.listOf commonHosts.rows = .ok [commonHostRow] := by decide +kernel
  have hmodes : rareHostLoad.request.modeFault? (.record []) = none := by
    decide +kernel
  have hrare : Row.listOf rareHosts.rows = .ok [rareHostRow, commonHostRow] := by
    decide +kernel
  have hadded : Backfill.addedRows [commonHostRow] [rareHostRow, commonHostRow] =
      [rareHostRow.set "is_filtered_value" (.flag true)] := by
    decide +kernel
  obtain ⟨shown, -, hexact, -, hlooks, -, hfound⟩ :=
    backfill_adds_missing hostsProgress hpoint hranges hrows hcounts hvalues hmodes
      htotals hshare
  obtain rfl := hexact (by decide +kernel)
  have hasked := hlooks.mpr hmissing
  obtain ⟨-, -, hends⟩ := hfound hasked
  have hshown := (hends (.record []) hostsProgress).1 rareHosts _ hrare
  rw [hadded] at hshown
  exact ⟨hasked, hshown⟩

/-! ## A share that is too large -/

def errorShareRequest : LoadRequest where
  breakdown := {
    id := "breakdown-status-range", title := "Status Range"
    dimension := .expression "CAST(status // 100 AS VARCHAR) || 'xx'"
    summaryPredicate := "status >= 500", summaryLabel := "errors" }
  column := "CAST(status // 100 AS VARCHAR) || 'xx'"
  decomposed := false
  condition := "1=1"
  totalsCondition := "1=1"
  topN := 5
  stages := [SamplingStage.whole "requests"]

def errorSharePlace : StagePlace := ⟨0, SamplingStage.whole "requests", []⟩

/-- One request in all, and more errors than binary64 can count. -/
def oversizedErrors : TimedResult where
  rows := .list [.record [("dim", "5xx"), ("cnt", .int 1)]]
  totals := .record [("dim", .null), ("cnt", .int 1), ("summary_cnt", .int (tenTo 400))]
  elapsed := .zero

/-- No filter is set and every count is an integer, and no row is shown. -/
theorem oversized_share_shows_no_rows :
    errorShareRequest.isContinuous = false ∧
    Row.listOf oversizedErrors.rows = .ok [⟨[("dim", "5xx"), ("cnt", .int 1)]⟩] ∧
    Rows.HasIntegerCount ⟨[("dim", "5xx"), ("cnt", .int 1)]⟩ ∧
    Rows.HasIntegerTotals oversizedErrors.totals ∧
    errorShareRequest.modeFault? (.record []) = none ∧
    ((⟨errorShareRequest, [], .main errorSharePlace⟩ : Load).resume (.record [])
      (Progress.begin { breakdownId := "breakdown-status-range" }) true
      (.ok oversizedErrors)).renderings =
        [.failure "breakdown-status-range"
          "integer division result too large for a float"] := by
  refine ⟨by decide +kernel, by decide +kernel, ⟨1, by decide +kernel⟩, ?_,
    by decide +kernel, by decide +kernel⟩
  intro given hgiven
  obtain rfl := Option.some.inj hgiven
  exact ⟨_, rfl, ⟨1, by decide +kernel⟩, .inr ⟨tenTo 400, by decide +kernel⟩⟩

end Load

end RequestBreakdown
