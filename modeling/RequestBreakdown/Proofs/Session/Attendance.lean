import RequestBreakdown.Proofs.Session.Balance
import RequestBreakdown.Proofs.Session.Handling

/-!
# Nothing is forgotten

A load that has something to do finds an event for it among those that are ready,
and a query that has been sent finds its sender: a load is to start, or to go on
with its slot, or it waits for a query, which then waits for its answer or is to
be received, just once.
-/

namespace RequestBreakdown

namespace QueryState

/-- How often the sender of a query is still to go on with it. -/
def replies : QueryState → Nat
  | .answered _ | .stopped => 1
  | .waiting | .ended => 0

theorem replies_le (state : QueryState) : state.replies ≤ 1 := by
  cases state <;> simp [replies]

end QueryState

theorem LoadStates.update_eq_some {states : LoadStates} {id other : TaskId}
    {state? : Option LoadTaskState} {state : LoadTaskState} :
    Function.update states id state? other = some state ↔
      other = id ∧ state? = some state ∨ other ≠ id ∧ states other = some state := by
  by_cases heq : other = id
  · subst heq
    simp
  · simp [heq]

theorem LoadStates.update_none_eq_some {states : LoadStates} {id other : TaskId}
    {state : LoadTaskState} :
    Function.update states id none other = some state ↔
      other ≠ id ∧ states other = some state := by
  simp [update_eq_some]

namespace Session

open LoadStates

variable {s : Session} {states : LoadStates} {beside : Option QueryId}
  {id : TaskId} {query : QueryId} {sent : SentQuery} {event : TaskEvent}
  {ready rest : List TaskEvent}

/-- Whoever can go on has an event ready, and queries and senders belong together;
beside that, one query is just being received. -/
structure Attended (s : Session) (states : LoadStates) (beside : Option QueryId) :
    Prop where
  created : ∀ id, states id = some .created → .start id ∈ s.ready
  granted : ∀ id run, states id = some (.granted run) → .enter id ∈ s.ready
  querying : ∀ id run query, states id = some (.querying run query) →
    ∃ sent, s.queries[query]? = some sent ∧ sent.task = id ∧ sent.state ≠ .ended ∧
      beside ≠ some query
  sender : ∀ query sent, s.queries[query]? = some sent → sent.state ≠ .ended →
    beside ≠ some query → ∃ run, states sent.task = some (.querying run query)
  replies : ∀ query, beside ≠ some query → s.ready.count (.receive query) =
    (s.queries[query]?).elim 0 (·.state.replies)
  received : ∀ query, beside = some query → s.ready.count (.receive query) = 0 ∧
    ∃ sent, s.queries[query]? = some sent ∧ sent.state ≠ .waiting

theorem Attended.congr {next : Session} (hattended : s.Attended states beside)
    (hready : next.ready = s.ready) (hqueries : next.queries = s.queries) :
    next.Attended states beside := by
  constructor
  case created => exact hready ▸ hattended.created
  case granted => exact hready ▸ hattended.granted
  case querying => exact hqueries ▸ hattended.querying
  case sender => exact hqueries ▸ hattended.sender
  case replies =>
      rw [hready, hqueries]
      exact hattended.replies
  case received =>
      rw [hready, hqueries]
      exact hattended.received

/-! ## Events -/

theorem Attended.of_ready (hattended : s.Attended states beside)
    (hmem : ∀ event ∈ s.ready, event ∈ ready)
    (hcount : ∀ query, ready.count (.receive query) = s.ready.count (.receive query)) :
    ({ s with ready } : Session).Attended states beside := by
  constructor
  case created => exact fun id hstate => hmem _ (hattended.created id hstate)
  case granted => exact fun id run hstate => hmem _ (hattended.granted id run hstate)
  case querying => exact hattended.querying
  case sender => exact hattended.sender
  case replies =>
      exact fun query hbeside => (hcount query).trans (hattended.replies query hbeside)
  case received =>
      intro query hbeside
      obtain ⟨hnone, hsent⟩ := hattended.received query hbeside
      exact ⟨(hcount query).trans hnone, hsent⟩

theorem Attended.later (hattended : s.Attended states beside) (event : TaskEvent)
    (hevent : ∀ query, event ≠ .receive query) :
    (s.later event).Attended states beside :=
  hattended.of_ready (fun _ hmem => List.mem_append_left _ hmem) fun query => by
    simp [hevent query]

theorem Attended.next (hattended : s.Attended states beside) (event : TaskEvent)
    (hevent : ∀ query, event ≠ .receive query) :
    (s.next event).Attended states beside :=
  hattended.of_ready (fun _ hmem => List.mem_cons_of_mem _ hmem) fun query => by
    simp [hevent query]

/-- An event is taken that nobody needs to go on. -/
theorem Attended.take (hattended : s.Attended states beside)
    (hready : s.ready = event :: rest) (hevent : ∀ query, event ≠ .receive query)
    (hcreated : ∀ id, states id = some .created → event ≠ .start id)
    (hgranted : ∀ id run, states id = some (.granted run) → event ≠ .enter id) :
    ({ s with ready := rest } : Session).Attended states beside := by
  have hcount : ∀ query, rest.count (.receive query) =
      s.ready.count (.receive query) := fun query => by
    simp [hready, hevent query]
  constructor
  case created =>
      intro id hstate
      have hmem := hattended.created id hstate
      rw [hready] at hmem
      exact (List.mem_cons.mp hmem).resolve_left (hcreated id hstate).symm
  case granted =>
      intro id run hstate
      have hmem := hattended.granted id run hstate
      rw [hready] at hmem
      exact (List.mem_cons.mp hmem).resolve_left (hgranted id run hstate).symm
  case querying => exact hattended.querying
  case sender => exact hattended.sender
  case replies =>
      exact fun query hbeside => (hcount query).trans (hattended.replies query hbeside)
  case received =>
      intro query hbeside
      obtain ⟨hnone, hsent⟩ := hattended.received query hbeside
      exact ⟨(hcount query).trans hnone, hsent⟩

/-! ## Loads -/

/-- A load is put aside that waits for no query. -/
theorem Attended.remove (hattended : s.Attended states beside) (id : TaskId)
    (hstate : ∀ run query, states id ≠ some (.querying run query)) :
    s.Attended (Function.update states id none) beside := by
  have hothers : ∀ other state, Function.update states id none other = some state →
      states other = some state :=
    fun _ _ hother => (update_none_eq_some.mp hother).2
  constructor
  case created => exact fun other hother => hattended.created other (hothers _ _ hother)
  case granted =>
      exact fun other run hother => hattended.granted other run (hothers _ _ hother)
  case querying =>
      exact fun other run query hother =>
        hattended.querying other run query (hothers _ _ hother)
  case sender =>
      intro query sent hsent hopen hbeside
      obtain ⟨run, hrun⟩ := hattended.sender query sent hsent hopen hbeside
      have hne : sent.task ≠ id := by
        rintro rfl
        exact hstate run query hrun
      exact ⟨run, update_eq_some.mpr (.inr ⟨hne, hrun⟩)⟩
  case replies => exact hattended.replies
  case received => exact hattended.received

/-- A load that was put aside comes back, and what it does next is ready. -/
theorem Attended.insert (hattended : s.Attended states beside) (id : TaskId)
    (state : LoadTaskState) (hnone : states id = none)
    (hcreated : state = .created → .start id ∈ s.ready)
    (hgranted : ∀ run, state = .granted run → .enter id ∈ s.ready)
    (hstate : ∀ run query, state ≠ .querying run query) :
    s.Attended (Function.update states id (some state)) beside := by
  constructor
  case created =>
      intro other hother
      rcases update_eq_some.mp hother with ⟨rfl, hsome⟩ | ⟨-, hbefore⟩
      · exact hcreated (Option.some.inj hsome)
      · exact hattended.created other hbefore
  case granted =>
      intro other run hother
      rcases update_eq_some.mp hother with ⟨rfl, hsome⟩ | ⟨-, hbefore⟩
      · exact hgranted run (Option.some.inj hsome)
      · exact hattended.granted other run hbefore
  case querying =>
      intro other run query hother
      rcases update_eq_some.mp hother with ⟨rfl, hsome⟩ | ⟨-, hbefore⟩
      · exact absurd (Option.some.inj hsome) (hstate run query)
      · exact hattended.querying other run query hbefore
  case sender =>
      intro query sent hsent hopen hbeside
      obtain ⟨run, hrun⟩ := hattended.sender query sent hsent hopen hbeside
      have hne : sent.task ≠ id := by
        rintro rfl
        rw [hnone] at hrun
        exact absurd hrun (by simp)
      exact ⟨run, update_eq_some.mpr (.inr ⟨hne, hrun⟩)⟩
  case replies => exact hattended.replies
  case received => exact hattended.received

/-! ## Queries -/

theorem getElem?_setQuery (s : Session) (query other : QueryId) (state : QueryState) :
    (s.setQuery query state).queries[other]? =
      (s.queries[other]?).map fun sent =>
        if query = other then { sent with state } else sent := by
  simp only [setQuery, List.getElem?_modify]
  by_cases heq : query = other <;> simp [heq]

/-- A query that waits comes to an end, and its sender is to receive it. -/
theorem Attended.settle (hattended : s.Attended states beside)
    (hsent : s.queries[query]? = some sent) (hwaiting : sent.state = .waiting)
    (state : QueryState) (hstate : state.replies = 1) (ready : List TaskEvent)
    (hmem : ∀ event ∈ s.ready, event ∈ ready)
    (hcount : ∀ other, ready.count (.receive other) =
      s.ready.count (.receive other) + if query = other then 1 else 0) :
    ({ s.setQuery query state with ready } : Session).Attended states beside := by
  have hopen : state ≠ .ended := by
    rintro rfl
    exact absurd hstate (by decide)
  have hbeside : beside ≠ some query := by
    intro heq
    obtain ⟨-, found, hfound, hnot⟩ := hattended.received query heq
    obtain rfl := Option.some.inj (hsent.symm.trans hfound)
    exact hnot hwaiting
  have hqueries : ∀ other, ({ s.setQuery query state with ready } : Session).queries[other]? =
      (s.queries[other]?).map fun sent =>
        if query = other then { sent with state } else sent :=
    fun other => s.getElem?_setQuery query other state
  constructor
  case created => exact fun id hload => hmem _ (hattended.created id hload)
  case granted => exact fun id run hload => hmem _ (hattended.granted id run hload)
  case querying =>
      intro id run other hload
      obtain ⟨found, hfound, htask, hstill, hother⟩ :=
        hattended.querying id run other hload
      rw [hqueries, hfound]
      by_cases heq : query = other
      · exact ⟨{ found with state }, by simp [heq], htask, hopen, hother⟩
      · exact ⟨found, by simp [heq], htask, hstill, hother⟩
  case sender =>
      intro other found hfound hstill hother
      rw [hqueries, Option.map_eq_some_iff] at hfound
      obtain ⟨before, hbefore, rfl⟩ := hfound
      by_cases heq : query = other
      · subst heq
        obtain rfl := Option.some.inj (hsent.symm.trans hbefore)
        rw [if_pos rfl]
        exact hattended.sender query sent hsent (by simp [hwaiting]) hother
      · rw [if_neg heq] at hstill ⊢
        exact hattended.sender other before hbefore hstill hother
  case replies =>
      intro other hother
      show ready.count (.receive other) = _
      rw [hcount, hqueries, hattended.replies other hother]
      by_cases heq : query = other
      · subst heq
        have hnone : sent.state.replies = 0 := by
          rw [hwaiting]
          rfl
        simp [hsent, hnone, hstate]
      · cases s.queries[other]? <;> simp [heq]
  case received =>
      intro other hother
      have hne : query ≠ other := by
        rintro rfl
        exact hbeside hother
      obtain ⟨hnone, found, hfound, hnot⟩ := hattended.received other hother
      show ready.count (.receive other) = 0 ∧ _
      rw [hcount, hqueries, hnone, hfound, if_neg hne]
      exact ⟨rfl, found, by simp [hne], hnot⟩

theorem Attended.stopQuery (hattended : s.Attended states beside) (query : QueryId) :
    (s.stopQuery query).Attended states beside := by
  unfold Session.stopQuery
  split
  · rename_i sent hsent
    split
    · rename_i hwaiting
      refine hattended.settle hsent hwaiting .stopped rfl _ ?_ ?_
      · exact fun _ hmem => List.mem_append_left _ hmem
      · intro other
        by_cases heq : query = other <;> simp [setQuery, heq]
    · exact hattended
  · exact hattended

theorem Attended.withRegistry (hattended : s.Attended states beside)
    (registry : ActivityRegistry QueryId) :
    (s.withRegistry registry).Attended states beside := by
  have hfold : ∀ (told : List QueryId) (s : Session), s.Attended states beside →
      (told.foldl Session.stopQuery s).Attended states beside := by
    intro told
    induction told with
    | nil => exact fun s hs => hs
    | cons query others ih => exact fun s hs => ih _ (hs.stopQuery query)
  exact hfold _ _ (hattended.congr rfl rfl)

/-- The query of a load is received: load and query are put aside. -/
theorem Attended.receive (hattended : s.Attended states none)
    (hready : s.ready = .receive query :: rest) :
    ∃ sent run, s.queries[query]? = some sent ∧
      states sent.task = some (.querying run query) ∧
      ({ s with ready := rest } : Session).Attended
        (Function.update states sent.task none) (some query) := by
  have hcount := hattended.replies query (by simp)
  rw [hready, List.count_cons_self] at hcount
  obtain ⟨sent, hsent⟩ : ∃ sent, s.queries[query]? = some sent := by
    cases hsent : s.queries[query]? with
    | none => simp [hsent] at hcount
    | some sent => exact ⟨sent, rfl⟩
  rw [hsent, Option.elim_some] at hcount
  have hnone : rest.count (.receive query) = 0 := by
    have hle := sent.state.replies_le
    omega
  have hopen : sent.state ≠ .ended ∧ sent.state ≠ .waiting := by
    constructor <;> (intro hstate; rw [hstate] at hcount; simp [QueryState.replies] at hcount)
  obtain ⟨run, hrun⟩ := hattended.sender query sent hsent hopen.1 (by simp)
  have hrest : ∀ event ∈ s.ready, event ≠ .receive query → event ∈ rest := by
    intro event hmem hne
    rw [hready] at hmem
    exact (List.mem_cons.mp hmem).resolve_left hne
  refine ⟨sent, run, hsent, hrun, ?_⟩
  constructor
  case created =>
      intro other hother
      have hbefore := (update_none_eq_some.mp hother).2
      exact hrest _ (hattended.created other hbefore) (by simp)
  case granted =>
      intro other state hother
      have hbefore := (update_none_eq_some.mp hother).2
      exact hrest _ (hattended.granted other state hbefore) (by simp)
  case querying =>
      intro other state asked hother
      obtain ⟨hne, hstate⟩ := update_none_eq_some.mp hother
      obtain ⟨found, hfound, htask, hstill, -⟩ :=
        hattended.querying other state asked hstate
      refine ⟨found, hfound, htask, hstill, ?_⟩
      rintro ⟨⟩
      obtain rfl := Option.some.inj (hsent.symm.trans hfound)
      exact hne htask.symm
  case sender =>
      intro asked found hfound hstill hne
      obtain ⟨state, hstate⟩ := hattended.sender asked found hfound hstill (by simp)
      have hother : found.task ≠ sent.task := by
        intro heq
        rw [heq, hrun] at hstate
        simp only [Option.some.injEq, LoadTaskState.querying.injEq] at hstate
        exact hne (congrArg some hstate.2)
      exact ⟨state, update_eq_some.mpr (.inr ⟨hother, hstate⟩)⟩
  case replies =>
      intro asked hne
      have hasked : query ≠ asked := fun heq => hne (congrArg some heq)
      rw [← hattended.replies asked (by simp), hready]
      simp [hasked]
  case received =>
      rintro asked ⟨⟩
      exact ⟨hnone, sent, hsent, hopen.2⟩

/-- The query that was being received is over. -/
theorem Attended.endQuery (hattended : s.Attended states (some query)) :
    (s.setQuery query .ended).Attended states none := by
  obtain ⟨hnone, sent, hsent, -⟩ := hattended.received query rfl
  constructor
  case created => exact hattended.created
  case granted => exact hattended.granted
  case querying =>
      intro id run other hload
      obtain ⟨found, hfound, htask, hstill, hne⟩ := hattended.querying id run other hload
      have hother : query ≠ other := fun heq => hne (congrArg some heq)
      exact ⟨found, by simp [getElem?_setQuery, hfound, hother], htask, hstill, by simp⟩
  case sender =>
      intro other found hfound hstill _
      rw [getElem?_setQuery, Option.map_eq_some_iff] at hfound
      obtain ⟨before, hbefore, rfl⟩ := hfound
      have hother : query ≠ other := by
        rintro rfl
        simp at hstill
      rw [if_neg hother] at hstill ⊢
      exact hattended.sender other before hbefore hstill fun heq =>
        hother (Option.some.inj heq)
  case replies =>
      intro other _
      rw [getElem?_setQuery]
      by_cases heq : query = other
      · subst heq
        have hready : (s.setQuery query .ended).ready = s.ready := rfl
        simp [hready, hnone, hsent, QueryState.replies]
      · have hother := hattended.replies other fun hsome => heq (Option.some.inj hsome)
        refine hother.trans ?_
        cases s.queries[other]? <;> simp [heq]
  case received => simp

/-- A load that was put aside sends a query. -/
theorem Attended.ask (hattended : s.Attended states none) (id : TaskId)
    (run : RunningLoad) (sent : SentQuery) (hnone : states id = none)
    (hsent : sent.task = id) (hwaiting : sent.state = .waiting) :
    ({ s with queries := s.queries ++ [sent] } : Session).Attended
      (Function.update states id (some (.querying run s.queries.length))) none := by
  have hold : ∀ (query : QueryId) found, s.queries[query]? = some found →
      (s.queries ++ [sent])[query]? = some found := by
    intro query found hfound
    rwa [List.getElem?_append_left (List.getElem?_eq_some_iff.mp hfound).1]
  have hnew : ∀ (query : QueryId) found, (s.queries ++ [sent])[query]? = some found →
      s.queries[query]? = some found ∨ query = s.queries.length ∧ found = sent := by
    intro query found hfound
    rw [List.getElem?_append] at hfound
    split at hfound
    · exact .inl hfound
    · rename_i hle
      rw [List.getElem?_singleton] at hfound
      split at hfound
      · right
        rename_i hzero
        have heq : query = s.queries.length :=
          Nat.le_antisymm (Nat.sub_eq_zero_iff_le.mp hzero) (Nat.not_lt.mp hle)
        exact ⟨heq, (Option.some.inj hfound).symm⟩
      · exact absurd hfound (by simp)
  constructor
  case created =>
      intro other hother
      rcases update_eq_some.mp hother with ⟨-, hfalse⟩ | ⟨-, hbefore⟩
      · exact absurd hfalse (by simp)
      · exact hattended.created other hbefore
  case granted =>
      intro other state hother
      rcases update_eq_some.mp hother with ⟨-, hfalse⟩ | ⟨-, hbefore⟩
      · exact absurd hfalse (by simp)
      · exact hattended.granted other state hbefore
  case querying =>
      intro other state query hother
      rcases update_eq_some.mp hother with ⟨rfl, hsome⟩ | ⟨-, hbefore⟩
      · obtain ⟨rfl, rfl⟩ : run = state ∧ s.queries.length = query := by
          simpa using hsome
        exact ⟨sent, by simp, hsent, by simp [hwaiting], by simp⟩
      · obtain ⟨found, hfound, hrest⟩ := hattended.querying other state query hbefore
        exact ⟨found, (hold query found hfound), hrest⟩
  case sender =>
      intro query found hfound hstill hbeside
      rcases hnew query found hfound with hbefore | ⟨rfl, rfl⟩
      · obtain ⟨state, hstate⟩ := hattended.sender query found hbefore hstill hbeside
        have hne : found.task ≠ id := by
          rintro rfl
          rw [hnone] at hstate
          exact absurd hstate (by simp)
        exact ⟨state, update_eq_some.mpr (.inr ⟨hne, hstate⟩)⟩
      · exact ⟨run, update_eq_some.mpr (.inl ⟨hsent, rfl⟩)⟩
  case replies =>
      intro query hbeside
      refine (hattended.replies query hbeside).trans ?_
      cases hfound : s.queries[query]? with
      | some found =>
          show _ = ((s.queries ++ [sent])[query]?).elim 0 _
          rw [hold query found hfound]
      | none =>
          show _ = ((s.queries ++ [sent])[query]?).elim 0 _
          cases hlast : (s.queries ++ [sent])[query]? with
          | none => rfl
          | some found =>
              rcases hnew query found hlast with hbefore | ⟨-, rfl⟩
              · rw [hbefore] at hfound
                exact absurd hfound (by simp)
              · simp [hwaiting, QueryState.replies]
  case received => simp

end Session

end RequestBreakdown
