import Mathlib.Data.List.Perm.Subperm
import RequestBreakdown.Proofs.Session.Overlap
import RequestBreakdown.Proofs.Session.Sharing

/-!
# Loads that wait and loads that go on

When a query is over its sender gives the slot back, and only then asks for one
anew if it has another query to send.  So no load keeps a slot while it waits for
one, and what a load waits for is the end of queries that others have sent or are
about to send: among the loads that are not over there is always one that goes on
without a slot, or that the backend keeps waiting.
-/

namespace RequestBreakdown

namespace LoadTaskState

def isOver : LoadTaskState → Bool
  | .complete _ | .failed _ => true
  | .created | .queued _ | .granted _ | .querying _ _ => false

theorem isOver_of_holds {state : LoadTaskState} (hholds : state.holds = true) :
    state.isOver = false := by
  cases state <;> simp_all [holds, isOver]

end LoadTaskState

namespace Session

variable {s next first : Session} {n : Nat} {id : TaskId} {t : LoadTask}
  {run : RunningLoad} {outcome : QueryOutcome}

/-- The queries that have been sent and are not over. -/
def inProgress (s : Session) : List QueryId :=
  (List.range s.queries.length).filter fun id => (s.queries[id]?).any (·.state != .ended)

/-- In such a state a load goes on without asking for a slot: its event is ready, or its
query is with the backend. -/
def Proceeds (s : Session) (id : TaskId) : LoadTaskState → Prop
  | .created => .start id ∈ s.ready
  | .granted _ => .enter id ∈ s.ready
  | .querying _ query => query ∈ s.pending ∨ .receive query ∈ s.ready
  | .queued _ | .complete _ | .failed _ => False

/-- A load has given back the slot that it had at the limiter; after that it has asked for
one anew, unless it is over. -/
inductive GivesBack (id : TaskId) (l : Limiter) (next : Session) : Prop where
  | over (state : LoadTaskState) (hstate : next.states id = some state)
      (hover : state.isOver = true) (hlimiter : next.limiter = l.release.1)
  | anew (run : RunningLoad)
      (hstate : next.states id = some (if (l.release.1.request id).2 = true
        then .granted run else .queued run))
      (hlimiter : next.limiter = (l.release.1.request id).1)

/-! ## Slots given back -/

theorem limiter_endLoad (s : Session) (id : TaskId) (t : LoadTask)
    (outcome : Except Fault RecordId) : (s.endLoad id t outcome).limiter = s.limiter := by
  obtain ⟨ready, heq⟩ := s.endLoad_eq id t outcome
  rw [heq]
  rfl

theorem limiter_requestSlot (s : Session) (id : TaskId) (t : LoadTask)
    (run : RunningLoad) :
    (s.requestSlot id t run).limiter = (s.limiter.request id).1 := by
  obtain ⟨ready, heq⟩ := s.requestSlot_eq id t run
  rw [heq]

theorem givesBack_leave (hload : s.HasLoad id t) (run : RunningLoad)
    (outcome : QueryOutcome) : GivesBack id s.limiter (s.leave id t run outcome) := by
  have hreleased : s.releaseSlot.HasLoad id t :=
    hload.of_turn (turn_releaseSlot : Turn id s s.releaseSlot)
  have hlimiter : s.releaseSlot.limiter = s.limiter.release.1 := by
    obtain ⟨tasks, ready, heq⟩ := s.releaseSlot_eq
    rw [heq]
  unfold leave
  dsimp only
  generalize run.load.resume s.releaseSlot.modes (s.releaseSlot.record run.record)
    (s.releaseSlot.registry.isCurrent run.activity) outcome = step
  cases hquery : step.query with
  | none =>
      refine .over (.complete run.record) ?_ rfl ?_
      · exact states_eq_some.mpr ⟨_, loadTask?_follow hreleased hquery, rfl⟩
      · rw [follow_of_none hquery, limiter_endLoad]
        exact hlimiter
  | some query =>
      have hshown : (s.releaseSlot.withStep run.record step).HasLoad id t := hreleased
      have hstate := states_eq_some.mpr ⟨_, loadTask?_requestSlot hshown
        { load := step.load, activity := run.activity, record := run.record, query }, rfl⟩
      rw [follow_of_some hquery]
      refine .anew _ (hlimiter ▸ hstate) ?_
      rw [limiter_requestSlot]
      exact congrArg (fun limiter : Limiter => (limiter.request id).1) hlimiter

/-! ## Turns of a load that has a slot -/

theorem givesBack_receive {query asked : QueryId} {sent : SentQuery}
    (hsent : s.queries[query]? = some sent) (hload : s.loadTask? sent.task = some t)
    (hquerying : t.state = .querying run asked) :
    GivesBack sent.task s.limiter (s.receive query) := by
  obtain ⟨clock, registry, queries, ready, heq, -⟩ := s.outcomeOf_eq run sent
  let ended : Session := (s.outcomeOf run sent).1.setQuery query .ended
  have hended : ended.HasLoad sent.task t := by
    simp only [ended]
    rw [heq]
    exact ⟨t, hload, rfl⟩
  have hlimiter : ended.limiter = s.limiter := by
    simp only [ended]
    rw [heq]
    rfl
  have hleave := givesBack_leave hended run (s.outcomeOf run sent).2
  rw [hlimiter] at hleave
  rw [receive_of_querying hsent hload hquerying]
  exact hleave

theorem sends_or_givesBack (hload : s.loadTask? id = some t) (run : RunningLoad) :
    ((s.enter id t run).limiter = s.limiter ∧
      ∃ query, (s.enter id t run).states id = some (.querying run query)) ∨
    GivesBack id s.limiter (s.enter id t run) := by
  unfold enter
  split
  · right
    exact givesBack_leave ⟨t, hload, rfl⟩ run _
  · left
    obtain ⟨query, hsent⟩ := loadTask?_send hload run
    obtain ⟨script, registry, queries, ready, heq⟩ := s.send_eq id t run
    refine ⟨?_, query, states_eq_some.mpr ⟨_, hsent, rfl⟩⟩
    rw [heq]
    rfl

/-- Whatever its query has come to, a load gives its slot back when it receives that. -/
theorem Orderly.receives (horderly : s.Orderly n) {query : QueryId}
    (hstate : s.states id = some (.querying run query))
    (hhead : s.ready.head? = some (.receive query)) (hstep : s.step? = some next) :
    GivesBack id s.limiter next := by
  obtain ⟨event, rest, hready, rfl⟩ := step?_eq_some hstep
  obtain rfl : event = .receive query := by simpa [hready] using hhead
  obtain ⟨sent, hsent, rfl, -, -⟩ := horderly.attended.querying id run query hstate
  obtain ⟨t, hload, hquerying⟩ := states_eq_some.mp hstate
  exact givesBack_receive (s := { s with ready := rest }) hsent hload hquerying

/-- A load that has been granted a slot keeps it for the query that it sends, or gives it
back because its token is cancelled. -/
theorem enters (hstate : s.states id = some (.granted run))
    (hhead : s.ready.head? = some (.enter id)) (hstep : s.step? = some next) :
    (next.limiter = s.limiter ∧ ∃ query, next.states id = some (.querying run query)) ∨
      GivesBack id s.limiter next := by
  obtain ⟨event, rest, hready, rfl⟩ := step?_eq_some hstep
  obtain rfl : event = .enter id := by simpa [hready] using hhead
  obtain ⟨t, hload, hgranted⟩ := states_eq_some.mp hstate
  have hfound : ({ s with ready := rest } : Session).loadTask? id = some t := hload
  rw [enter_of_granted hfound hgranted]
  exact sends_or_givesBack hfound run

/-! ## Loads that are not over -/

theorem mem_inProgress {query : QueryId} :
    query ∈ s.inProgress ↔
      ∃ sent, s.queries[query]? = some sent ∧ sent.state ≠ .ended := by
  simp only [inProgress, List.mem_filter, List.mem_range, Option.any_eq_true, bne_iff_ne]
  constructor
  · exact And.right
  · rintro ⟨sent, hsent, hopen⟩
    exact ⟨(List.getElem?_eq_some_iff.mp hsent).1, sent, hsent, hopen⟩

/-- Every query that is not over has a sender of its own, which has a slot. -/
theorem Orderly.length_inProgress_le (horderly : s.Orderly n) {holders : List TaskId}
    (hholders : ∀ id, (s.states id).any (·.holds) = true → id ∈ holders) :
    s.inProgress.length ≤ holders.length := by
  -- A sender waits for one query only, so that no two queries have the same.
  let sender : QueryId → TaskId := fun query => (s.queries[query]?).elim 0 (·.task)
  have hsender : ∀ query ∈ s.inProgress, ∃ run,
      s.states (sender query) = some (.querying run query) := by
    intro query hmem
    obtain ⟨sent, hsent, hopen⟩ := mem_inProgress.mp hmem
    simpa [sender, hsent] using horderly.attended.sender query sent hsent hopen (by simp)
  have hinjective : ∀ query ∈ s.inProgress, ∀ other ∈ s.inProgress,
      sender query = sender other → query = other := by
    intro query hquery other hother heq
    obtain ⟨run, hrun⟩ := hsender query hquery
    obtain ⟨run', hrun'⟩ := hsender other hother
    rw [heq, hrun'] at hrun
    simp only [Option.some.injEq, LoadTaskState.querying.injEq] at hrun
    exact hrun.2.symm
  have hnodup : (s.inProgress.map sender).Nodup :=
    (List.nodup_range.filter _).map_on hinjective
  have hsubset : s.inProgress.map sender ⊆ holders := by
    intro id hmem
    obtain ⟨query, hquery, rfl⟩ := List.mem_map.mp hmem
    obtain ⟨run, hrun⟩ := hsender query hquery
    exact hholders _ (by rw [hrun]; rfl)
  simpa using (hnodup.subperm hsubset).length_le

theorem Orderly.proceeds (horderly : s.Orderly n) {state : LoadTaskState}
    (hstate : s.states id = some state) (hover : state.isOver = false)
    (hwaits : state.waits = false) : s.Proceeds id state := by
  cases state with
  | created => exact horderly.attended.created id hstate
  | queued run => exact absurd hwaits (by simp [LoadTaskState.waits])
  | granted run => exact horderly.attended.granted id run hstate
  | querying run query =>
      obtain ⟨sent, hsent, -, hopen, -⟩ := horderly.attended.querying id run query hstate
      have hcount := horderly.attended.replies query (by simp)
      rw [hsent, Option.elim_some] at hcount
      cases hsettled : sent.state with
      | waiting => exact .inl (mem_pending.mpr ⟨sent, hsent, hsettled⟩)
      | ended => exact absurd hsettled hopen
      | answered | stopped =>
          rw [hsettled] at hcount
          exact .inr (List.count_pos_iff.mp (hcount ▸ Nat.one_pos))
  | complete | failed => exact absurd hover (by simp [LoadTaskState.isOver])

/-- The loads of a session share its limiter: there are never more queries in progress
than it allows, and each has a sender with a slot of its own; a load that waits for a
slot has none, and all slots are with others; a slot is given back whatever the query has
come to, and before one is asked for anew; and as long as not all loads are over, one of
them goes on without waiting for a slot. -/
theorem loads_share_slots {bound : Int} (hbound : 1 ≤ bound)
    (hlimiter : Limiter.ofBound (.int bound) = .ok first.limiter) (hnew : first.IsNew)
    (hqueries : first.queries = []) (hleads : first.LeadsTo s) :
    (∃ holders : List TaskId, holders.Nodup ∧ s.limiter.active = holders.length ∧
      s.inProgress.length ≤ holders.length ∧ holders.length ≤ bound ∧
      (∀ id, id ∈ holders ↔ ∃ state, s.states id = some state ∧ state.holds = true) ∧
      ∀ id run, s.states id = some (.queued run) →
        id ∉ holders ∧ holders.length = bound) ∧
    (∀ id run query next, s.states id = some (.querying run query) →
      s.ready.head? = some (.receive query) → s.step? = some next →
        GivesBack id s.limiter next) ∧
    (∀ id run next, s.states id = some (.granted run) →
      s.ready.head? = some (.enter id) → s.step? = some next →
        (next.limiter = s.limiter ∧
          ∃ query, next.states id = some (.querying run query)) ∨
        GivesBack id s.limiter next) ∧
    ∀ id state, s.states id = some state → state.isOver = false →
      ∃ other going, s.states other = some going ∧ s.Proceeds other going ∧
        (state.waits = false → other = id) := by
  have hfirst : first.limiter = { capacity := bound.toNat } :=
    (Except.ok.inj ((Limiter.ofBound_int hbound).symm.trans hlimiter)).symm
  have horderly : s.Orderly bound.toNat :=
    (hnew.orderly hfirst hqueries).of_leadsTo hnew.sound hleads
  have hcapacity : (s.limiter.capacity : Int) = bound := by
    rw [horderly.balanced.capacity_eq]
    omega
  obtain ⟨holders, hnodup, hactive, hmem⟩ := horderly.balanced.held
  have hqueued : ∀ id run, s.states id = some (.queued run) →
      id ∉ holders ∧ holders.length = bound := by
    intro id run hstate
    have hpending : id ∈ s.limiter.pending :=
      (horderly.balanced.pending id).mpr (by rw [hstate]; rfl)
    have hfull := horderly.balanced.sound.active_eq (List.ne_nil_of_mem hpending)
    refine ⟨fun hid => ?_, by rw [← hactive, hfull, hcapacity]⟩
    simpa [hstate, LoadTaskState.holds] using (hmem id).mp hid
  refine ⟨⟨holders, hnodup, hactive, ?_, ?_, ?_, hqueued⟩, ?_, ?_, ?_⟩
  · exact horderly.length_inProgress_le fun id hholds => (hmem id).mpr hholds
  · rw [← hactive, ← hcapacity]
    exact horderly.balanced.sound.active_le
  · intro id
    rw [hmem, Option.any_eq_true]
  · exact fun id run query next => horderly.receives
  · exact fun id run next => enters
  · intro id state hstate hover
    cases hwaits : state.waits with
    | false => exact ⟨id, state, hstate, horderly.proceeds hstate hover hwaits, fun _ => rfl⟩
    | true =>
        -- All slots are in use, so that there is a load that has one.
        obtain ⟨run, rfl⟩ := LoadTaskState.waits_eq_true.mp hwaits
        have hfull := (hqueued id run hstate).2
        have hpos : 0 < holders.length := by omega
        obtain ⟨other, hother⟩ := List.exists_mem_of_length_pos hpos
        obtain ⟨going, hgoing, hholds⟩ :=
          (Option.any_eq_true _ _).mp ((hmem other).mp hother)
        have hproceeds := horderly.proceeds hgoing (LoadTaskState.isOver_of_holds hholds)
          (LoadTaskState.waits_of_holds hholds)
        exact ⟨other, going, hgoing, hproceeds, by simp⟩

/-! ## The hosts twice, with one slot -/

def hostsNarrow : Session := { hosts with limiter := { capacity := 1 } }

/-- The first load has sent its query, and the second waits for the slot. -/
def hostsInLine : Session :=
  settleWithin 3 ((hostsNarrow.addLoad hostsOrder).1.addLoad hostsOrder).1

theorem leadsTo_hostsInLine : hostsNarrow.LeadsTo hostsInLine := by
  have hfirst : hostsNarrow.Move (hostsNarrow.addLoad hostsOrder).1 :=
    .order hostsNarrow hostsOrder (by simp [hostsOrder])
  have hsecond : (hostsNarrow.addLoad hostsOrder).1.Move
      ((hostsNarrow.addLoad hostsOrder).1.addLoad hostsOrder).1 :=
    .order _ hostsOrder (by simp [hostsOrder])
  exact ((hears_settleWithin 0 3 _).leadsTo.head hsecond).head hfirst

theorem exists_queued_hostsInLine :
    ∃ run, hostsInLine.states 1 = some (.queued run) := by
  have hwaits : (hostsInLine.states 1).any (·.waits) = true := by decide +kernel
  obtain ⟨state, hstate, hqueued⟩ := (Option.any_eq_true _ _).mp hwaits
  obtain ⟨run, rfl⟩ := LoadTaskState.waits_eq_true.mp hqueued
  exact ⟨run, hstate⟩

/-- The query of the first load has its answer. -/
def hostsAnswered : Session := hostsAnswer hostsInLine 0

theorem leadsTo_hostsAnswered : hostsNarrow.LeadsTo hostsAnswered :=
  leadsTo_hostsInLine.tail (.answer (answer_eq_hostsAnswer (by decide +kernel)))

theorem exists_querying_hostsAnswered :
    ∃ run, hostsAnswered.states 0 = some (.querying run 0) := by
  have hasks : (hostsAnswered.states 0).bind (·.query?) = some 0 := by decide +kernel
  obtain ⟨state, hstate, hquery⟩ := Option.bind_eq_some_iff.mp hasks
  obtain ⟨run, rfl⟩ := LoadTaskState.query?_eq_some.mp hquery
  exact ⟨run, hstate⟩

/-- The second load waits as long as the first has the slot, and the first gives it back. -/
theorem loads_share_slots_hosts :
    hostsInLine.inProgress = [0] ∧
      (∃ run, hostsInLine.states 1 = some (.queued run)) ∧
      (∃ holders : List TaskId, hostsInLine.limiter.active = holders.length ∧
        1 ∉ holders ∧ holders.length = (1 : Int)) ∧
      (∃ other going, hostsInLine.states other = some going ∧
        hostsInLine.Proceeds other going) ∧
      ∃ next, hostsAnswered.step? = some next ∧
        GivesBack 0 hostsAnswered.limiter next := by
  have hbound : (1 : Int) ≤ 1 := by decide
  have hnew : hostsNarrow.IsNew := ⟨rfl, rfl, rfl, rfl, rfl⟩
  obtain ⟨⟨holders, -, hactive, -, -, -, hwaiting⟩, -, -, hgoing⟩ :=
    loads_share_slots hbound (Limiter.ofBound_int hbound) hnew rfl leadsTo_hostsInLine
  obtain ⟨-, hreturns, -, -⟩ :=
    loads_share_slots hbound (Limiter.ofBound_int hbound) hnew rfl leadsTo_hostsAnswered
  obtain ⟨run, hqueued⟩ := exists_queued_hostsInLine
  obtain ⟨hother, hfull⟩ := hwaiting 1 run hqueued
  obtain ⟨other, going, hstate, hproceeds, -⟩ := hgoing 1 _ hqueued rfl
  obtain ⟨asking, hasking⟩ := exists_querying_hostsAnswered
  have hsome : hostsAnswered.step?.isSome = true := by decide +kernel
  obtain ⟨next, hnext⟩ := Option.isSome_iff_exists.mp hsome
  exact ⟨by decide +kernel, ⟨run, hqueued⟩, ⟨holders, hactive, hother, hfull⟩,
    ⟨other, going, hstate, hproceeds⟩, next, hnext,
    hreturns 0 asking 0 next hasking (by decide +kernel) hnext⟩

end Session

end RequestBreakdown
