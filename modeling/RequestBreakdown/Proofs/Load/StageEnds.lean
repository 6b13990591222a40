import RequestBreakdown.Load.Run

/-!
# How stages end

A load is written as what it does between two of its queries.  Here a stage is
one piece: from what its queries come to, it follows how the stage ends.  A
stage can end by a fault, at any of the places where something can go wrong; it
can be found stale, after each of its queries; or its table is shown.
-/

namespace RequestBreakdown

/-- What a load finds when its query has ended: how the switches stand, whether
its activity is still current, and what the query came to. -/
structure Reply where
  modes : CountingModes
  current : Bool
  outcome : QueryOutcome

inductive StageEnd where
  /-- The table is shown, with the milliseconds that its query took. -/
  | shown (table : BreakdownTable) (elapsed : Binary64)
  /-- Something went wrong, while the activity was current or not. -/
  | raised (fault : Fault) (current : Bool)
  | stale
  deriving DecidableEq, Repr

def StageEnd.isFailure : StageEnd → Bool
  | .raised fault current => current && !fault.isCancellation
  | _ => false

namespace Load

def endWithRows (load : Load) (place : StagePlace) (found : StageResult) :
    StageEnd :=
  match load.summaryRatio found with
  | .error fault => .raised fault true
  | .ok ratio => .shown (load.table place.stage found ratio) found.elapsed

/-- The main query of a stage has ended: the stage ends, or its rows are known
and a look-up follows. -/
def endOfMain (load : Load) (place : StagePlace) (reply : Reply) :
    StageEnd ⊕ StageResult :=
  match reply.outcome with
  | .error fault => .inl (.raised fault reply.current)
  | .ok result =>
    if !reply.current then .inl .stale
    else
      match arrange load.request place result.rows with
      | .error fault => .inl (.raised fault true)
      | .ok rows =>
        let found : StageResult := ⟨rows, result.totals, result.elapsed⟩
        match load.backfillQuery? reply.modes place rows,
            load.request.modeFault? reply.modes with
        | none, _ => .inl (load.endWithRows place found)
        | some _, some fault => .inl (.raised fault true)
        | some _, none => .inr found

/-- The look-up of a stage has ended; one that goes wrong has found nothing,
unless it was cancelled. -/
def endOfLookup (load : Load) (place : StagePlace) (found : StageResult)
    (reply : Reply) : StageEnd :=
  match reply.outcome with
  | .error fault =>
    if fault.isCancellation then .raised fault reply.current
    else if reply.current then load.endWithRows place found
    else .stale
  | .ok extra =>
    match withBackfill found (.ok extra) with
    | .error fault => .raised fault reply.current
    | .ok result =>
      if reply.current then load.endWithRows place result else .stale

/-- How a stage ends whose main query was sent, with the reply that it ends on
and the replies behind that; none while it waits. -/
def stageEnd? (load : Load) (place : StagePlace) :
    List Reply → Option (StageEnd × Reply × List Reply)
  | [] => none
  | reply :: rest =>
    match load.endOfMain place reply with
    | .inl ended => some (ended, reply, rest)
    | .inr found =>
      match rest with
      | [] => none
      | lookup :: rest => some (load.endOfLookup place found lookup, lookup, rest)

/-- The ends of stages one after the other, until one of them is not shown.
Nothing can be queried under switches that are none, nor with the fault that is
given for the first stage. -/
def stageEnds (load : Load) (fault : Option Fault) (modes : CountingModes)
    (current : Bool) (index : Nat) :
    List SamplingStage → List Reply → List StageEnd
  | [], _ => []
  | stage :: later, replies =>
    match (load.request.modeFault? modes).or fault with
    | some fault => [.raised fault current]
    | none =>
      match load.stageEnd? ⟨index, stage, later⟩ replies with
      | none => []
      | some (.shown table elapsed, reply, rest) =>
        .shown table elapsed ::
          stageEnds load none reply.modes true (index + 1) later rest
      | some (other, _, _) => [other]

end Load

namespace LoadStep

def after (step : LoadStep) (reply : Reply) : LoadStep :=
  let next := step.load.resume reply.modes step.progress reply.current
    reply.outcome
  { next with renderings := step.renderings ++ next.renderings }

def run (step : LoadStep) (replies : List Reply) : LoadStep :=
  replies.foldl after step

@[simp] theorem run_nil (step : LoadStep) : step.run [] = step := rfl

@[simp] theorem run_cons (step : LoadStep) (reply : Reply)
    (rest : List Reply) : step.run (reply :: rest) = (step.after reply).run rest :=
  rfl

/-- What was shown before does not matter for what is done next. -/
theorem run_renderings (step : LoadStep) (before : List Rendering)
    (replies : List Reply) :
    ({ step with renderings := before ++ step.renderings } : LoadStep).run
        replies =
      { step.run replies with
        renderings := before ++ (step.run replies).renderings } := by
  induction replies generalizing step with
  | nil => rfl
  | cons reply rest ih =>
      have hafter : ({ step with renderings := before ++ step.renderings } :
          LoadStep).after reply =
          { step.after reply with
            renderings := before ++ (step.after reply).renderings } := by
        simp [after]
      rw [run_cons, run_cons, hafter]
      exact ih (step.after reply)

structure IsOver (step : LoadStep) : Prop where
  point : step.load.point = .ended
  query : step.query = none

theorem IsOver.run_eq {step : LoadStep} (hover : step.IsOver)
    (replies : List Reply) : step.run replies = step := by
  obtain ⟨hpoint, hquery⟩ := hover
  induction replies with
  | nil => rfl
  | cons reply rest ih =>
      have hafter : step.after reply = step := by
        obtain ⟨load, progress, renderings, query⟩ := step
        simp only at hpoint hquery
        simp [after, Load.resume, hpoint, hquery]
      rw [run_cons, hafter, ih]

/-- A load that goes on to a query waits for it, and nothing has gone wrong. -/
structure Waits (progress : Progress) (step : LoadStep) : Prop where
  point : step.query ≠ none → step.load.point ≠ .ended
  error : step.query ≠ none → step.progress.error = progress.error

end LoadStep

namespace Load

variable {load : Load} {modes : CountingModes} {progress : Progress}
  {current : Bool}

theorem isOver_finish (phase : LoadPhase) :
    (load.finish progress phase).IsOver := ⟨rfl, rfl⟩

theorem isOver_fail (fault : Fault) :
    (load.fail progress current fault).IsOver := by
  unfold fail
  split
  · exact isOver_finish .cancelled
  · simp only
    split
    · exact isOver_finish .settled
    · exact ⟨rfl, rfl⟩

def followEnd (load : Load) (progress : Progress) (place : StagePlace)
    (modes : CountingModes) : StageEnd → LoadStep
  | .shown table elapsed =>
    let progress := { progress with
      rendered := true, sampleRate := some place.stage.rate
      elapsed := some elapsed }
    let step := load.enterStage modes progress true (place.index + 1) place.later
    { step with renderings := .table table :: step.renderings }
  | .raised fault current => load.fail progress current fault
  | .stale => load.finish progress .cancelled

def waiting (load : Load) (point : LoadPoint) (progress : Progress)
    (query : String) : LoadStep :=
  { load := { load with point }, progress, query := some query }

theorem enterStage_point (load : Load) (point : LoadPoint) (index : Nat)
    (stages : List SamplingStage) :
    ({ load with point } : Load).enterStage modes progress current index stages =
      load.enterStage modes progress current index stages := by
  cases stages with
  | nil => rfl
  | cons stage later => rfl

theorem complete_eq (place : StagePlace) (found : StageResult)
    (point : LoadPoint) :
    ({ load with point } : Load).complete modes progress place found =
      load.followEnd progress place modes (load.endWithRows place found) := by
  have hratio : ({ load with point } : Load).summaryRatio found =
      load.summaryRatio found := rfl
  unfold complete endWithRows
  rw [hratio]
  cases load.summaryRatio found with
  | error fault => rfl
  | ok ratio =>
      simp only [enterStage_point load]
      rfl

theorem after_waiting (point : LoadPoint) (query : String) (reply : Reply) :
    (load.waiting point progress query).after reply =
      ({ load with point } : Load).resume reply.modes progress reply.current
        reply.outcome := by
  simp [LoadStep.after, waiting]

theorem after_main (load : Load) (progress : Progress) (place : StagePlace)
    (reply : Reply) (query : String) :
    (∃ ended, load.endOfMain place reply = .inl ended ∧
      (load.waiting (.main place) progress query).after reply =
        load.followEnd progress place reply.modes ended) ∨
    ∃ found lookup, load.endOfMain place reply = .inr found ∧
      (load.waiting (.main place) progress query).after reply =
        load.waiting (.backfill place found) progress lookup := by
  rw [after_waiting]
  unfold resume receive endOfMain
  cases reply.outcome with
  | error fault => exact .inl ⟨_, rfl, rfl⟩
  | ok result =>
      cases reply.current with
      | false => exact .inl ⟨_, rfl, rfl⟩
      | true =>
          simp only [Bool.not_true, Bool.false_eq_true, if_false, if_true]
          cases arrange load.request place result.rows with
          | error fault => exact .inl ⟨_, rfl, rfl⟩
          | ok rows =>
              have hlookup : ({ load with point := .main place } :
                  Load).backfillQuery? reply.modes place rows =
                load.backfillQuery? reply.modes place rows := rfl
              simp only [hlookup]
              cases load.backfillQuery? reply.modes place rows with
              | none => exact .inl ⟨_, rfl, complete_eq ..⟩
              | some lookup =>
                  cases load.request.modeFault? reply.modes with
                  | some fault => exact .inl ⟨_, rfl, rfl⟩
                  | none => exact .inr ⟨_, lookup, rfl, rfl⟩

theorem after_lookup (place : StagePlace) (found : StageResult) (reply : Reply)
    (query : String) :
    (load.waiting (.backfill place found) progress query).after reply =
      load.followEnd progress place reply.modes
        (load.endOfLookup place found reply) := by
  rw [after_waiting]
  unfold resume endOfLookup isCancelled
  cases reply.outcome with
  | error fault =>
      cases hcancelled : fault.isCancellation with
      | true =>
          simp only [hcancelled, Bool.true_or, if_true, followEnd, fail]
          rfl
      | false =>
          simp only [hcancelled, Bool.false_or]
          cases reply.current with
          | false => rfl
          | true => exact complete_eq ..
  | ok extra =>
      dsimp only
      cases withBackfill found (.ok extra) with
      | error fault =>
          cases reply.current with
          | false => simp [followEnd, fail, finish]
          | true => rfl
      | ok result =>
          cases reply.current with
          | false => rfl
          | true => exact complete_eq ..

theorem run_main {place : StagePlace} {replies rest : List Reply}
    {ended : StageEnd} {reply : Reply} (query : String)
    (hended : load.stageEnd? place replies = some (ended, reply, rest)) :
    (load.waiting (.main place) progress query).run replies =
      (load.followEnd progress place reply.modes ended).run rest := by
  cases replies with
  | nil => simp [stageEnd?] at hended
  | cons first more =>
      rw [LoadStep.run_cons]
      rcases after_main load progress place first query
        with ⟨e, hmain, hafter⟩ | ⟨found, lookup, hmain, hafter⟩
      · simp only [stageEnd?, hmain, Option.some.injEq, Prod.mk.injEq] at hended
        obtain ⟨rfl, rfl, rfl⟩ := hended
        rw [hafter]
      · cases more with
        | nil => simp [stageEnd?, hmain] at hended
        | cons second more =>
            simp only [stageEnd?, hmain, Option.some.injEq,
              Prod.mk.injEq] at hended
            obtain ⟨rfl, rfl, rfl⟩ := hended
            rw [hafter, LoadStep.run_cons, after_lookup]

theorem run_main_waiting {place : StagePlace} {replies : List Reply}
    (query : String) (hended : load.stageEnd? place replies = none) :
    ((load.waiting (.main place) progress query).run replies).load.point ≠
      .ended := by
  cases replies with
  | nil => simp [waiting]
  | cons first more =>
      rw [LoadStep.run_cons]
      rcases after_main load progress place first query
        with ⟨e, hmain, hafter⟩ | ⟨found, lookup, hmain, hafter⟩
      · simp [stageEnd?, hmain] at hended
      · cases more with
        | nil =>
            rw [hafter]
            simp [waiting]
        | cons second more => simp [stageEnd?, hmain] at hended

/-! ## The tables shown -/

/-- Whether a table is what the load shows of a stage, for some rows of it. -/
def Shows (load : Load) (stage : SamplingStage) (table : BreakdownTable) : Prop :=
  ∃ found ratio, load.summaryRatio found = .ok ratio ∧
    table = load.table stage found ratio

theorem Shows.sampleRate {stage : SamplingStage} {table : BreakdownTable}
    (hshows : load.Shows stage table) : table.sampleRate = stage.rate.value := by
  obtain ⟨found, ratio, _, rfl⟩ := hshows
  rfl

theorem shows_endWithRows {place : StagePlace} {found : StageResult}
    {table : BreakdownTable} {elapsed : Binary64}
    (hended : load.endWithRows place found = .shown table elapsed) :
    load.Shows place.stage table := by
  unfold endWithRows at hended
  split at hended
  · exact absurd hended (by simp)
  · rename_i ratio hratio
    simp only [StageEnd.shown.injEq] at hended
    exact ⟨found, ratio, hratio, hended.1.symm⟩

theorem shows_endOfMain {place : StagePlace} {reply : Reply}
    {table : BreakdownTable} {elapsed : Binary64}
    (hended : load.endOfMain place reply = .inl (.shown table elapsed)) :
    load.Shows place.stage table := by
  unfold endOfMain at hended
  split at hended
  · simp at hended
  · split at hended
    · simp at hended
    · split at hended
      · simp at hended
      · simp only at hended
        split at hended
        · exact shows_endWithRows (Sum.inl.inj hended)
        · simp at hended
        · simp at hended

theorem shows_endOfLookup {place : StagePlace} {found : StageResult}
    {reply : Reply} {table : BreakdownTable} {elapsed : Binary64}
    (hended : load.endOfLookup place found reply = .shown table elapsed) :
    load.Shows place.stage table := by
  unfold endOfLookup at hended
  split at hended
  · split at hended
    · simp at hended
    · split at hended
      · exact shows_endWithRows hended
      · simp at hended
  · split at hended
    · simp at hended
    · split at hended
      · exact shows_endWithRows hended
      · simp at hended

theorem shows_stageEnd? {place : StagePlace} {replies rest : List Reply}
    {reply : Reply} {table : BreakdownTable} {elapsed : Binary64}
    (hended : load.stageEnd? place replies =
      some (.shown table elapsed, reply, rest)) :
    load.Shows place.stage table := by
  unfold stageEnd? at hended
  split at hended
  · simp at hended
  · split at hended
    · rename_i e hmain
      simp only [Option.some.injEq, Prod.mk.injEq] at hended
      rw [hended.1] at hmain
      exact shows_endOfMain hmain
    · split at hended
      · simp at hended
      · simp only [Option.some.injEq, Prod.mk.injEq] at hended
        exact shows_endOfLookup hended.1

/-! ## Loads that wait -/

theorem waits_of_isOver {step : LoadStep} (hover : step.IsOver) :
    step.Waits progress :=
  ⟨fun h => absurd hover.query h, fun h => absurd hover.query h⟩

theorem waits_enterStage (index : Nat) (stages : List SamplingStage) :
    (load.enterStage modes progress current index stages).Waits progress := by
  cases stages with
  | nil => exact waits_of_isOver (isOver_finish .settled)
  | cons stage later =>
      simp only [enterStage]
      split
      · exact waits_of_isOver (isOver_fail _)
      · exact ⟨fun _ => by simp, fun _ => rfl⟩

theorem waits_complete (place : StagePlace) (found : StageResult) :
    (load.complete modes progress place found).Waits progress := by
  unfold complete
  split
  · exact waits_of_isOver (isOver_fail _)
  · exact ⟨(waits_enterStage ..).point, (waits_enterStage ..).error⟩

theorem waits_resume (outcome : QueryOutcome) :
    (load.resume modes progress current outcome).Waits progress := by
  unfold resume
  split
  · exact ⟨fun h => absurd rfl h, fun h => absurd rfl h⟩
  · split
    · exact waits_of_isOver (isOver_fail _)
    · split
      · unfold receive
        split
        · exact waits_of_isOver (isOver_fail _)
        · dsimp only
          split
          · exact waits_complete ..
          · exact waits_of_isOver (isOver_fail _)
          · exact ⟨fun _ => by simp, fun _ => rfl⟩
      · exact waits_of_isOver (isOver_finish _)
  · split
    · exact waits_of_isOver (isOver_finish _)
    · split
      · exact waits_complete ..
      · exact waits_of_isOver (isOver_fail _)

theorem waits_startUnless (fault : Option Fault) (request : LoadRequest)
    (filters : List Filter) :
    (startUnless fault request filters modes progress current).Waits
      progress := by
  unfold startUnless
  dsimp only
  split
  · exact waits_of_isOver (isOver_fail _)
  · exact ⟨(waits_enterStage ..).point, (waits_enterStage ..).error⟩

/-- A load that has been superseded ends with its query, whatever that came to. -/
theorem resume_of_not_current (hpoint : load.point ≠ .ended)
    (outcome : QueryOutcome) :
    load.resume modes progress false outcome = load.finish progress .cancelled := by
  unfold resume
  split
  · rename_i h
    exact absurd h hpoint
  · cases outcome with
    | error fault => simp [fail]
    | ok result => rfl
  · simp

end Load

end RequestBreakdown
