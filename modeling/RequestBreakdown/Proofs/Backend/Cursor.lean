import RequestBreakdown.Backend.Engine
import RequestBreakdown.Proofs.Backend.Connection
import RequestBreakdown.Proofs.Cancellation.Newcomers

/-!
# Cursors

A query opens a cursor that nobody has known before, and has its token interrupt it.
However the query ends, the cursor is closed once and forgotten by the token; for
all others that are registered it is as if there had been no query.  What the query
reports follows from the answer of the database and from whether the token is
cancelled by then.
-/

namespace RequestBreakdown

/-! ## The number of cursors -/

namespace Database

/-- How many cursors there are has no part in an answer. -/
theorem answer_withCursors (db : Database) (cursors : Nat) (sql : String) :
    ({ db with cursors } : Database).answer sql =
      ({ (db.answer sql).1 with cursors }, (db.answer sql).2) := by
  unfold answer
  dsimp only
  split
  · split <;> rfl
  · rfl

end Database

/-- Connecting opens no cursor and closes none. -/
theorem LogSource.connect_leaves (s : LogSource) :
    (LogSource.connect s).2.db.cursors = s.db.cursors ∧
      (LogSource.connect s).2.db.events.count .closed = s.db.events.count .closed := by
  cases hopen : s.isConnected with
  | true =>
      rw [connect_of_open hopen]
      exact ⟨rfl, rfl⟩
  | false =>
      by_cases hthreads : s.threads = .null
      · rw [connect_of_unset hopen hthreads]
        simp [opened]
      · have hstatement : (LogSource.connect s).2.db =
            (s.opened.db.answer s.setting).1.note
              (.statement s.setting (s.opened.db.answer s.setting).2.fault.isNone) := by
          rw [connect_of_set hopen hthreads, Stateful.run_discard]
          simp only [withDatabase, DatabaseM.execute_run]
          cases (s.opened.db.answer s.setting).2.fault with
          | none => rfl
          | some fault => rfl
        rw [hstatement]
        simp [opened]

namespace Engine

/-- No token knows a cursor that is still to be opened. -/
def IsClean (e : Engine) : Prop := e.network.KnowsOnly (· < e.source.db.cursors)

/-- The tokens when a query is over: as they were, or cancelled from the query's one. -/
def networkAfter (e : Engine) (token : Option TokenId) (cancels : Bool) :
    TokenNetwork CursorId :=
  match token, cancels with
  | some id, true => { e.network.cancel id with notified := [] }
  | _, _ => e.network

/-- How many hear of a cancellation during the query: the others, and its cursor. -/
def hearing (e : Engine) (token : Option TokenId) (cancels : Bool) : Nat :=
  match token, cancels with
  | some id, true => (e.network.cancel id).notified.length + 1
  | _, _ => 0

/-- What the database is asked for by a query whose answer it has given. -/
def queryEvents (query : String) (answer : StatementAnswer) (hearing : Nat) :
    List DatabaseEvent :=
  .statement query answer.fault.isNone ::
    (List.replicate hearing .interrupted ++ [.closed])

def databaseAfter (db : Database) (query : String) (hearing : Nat) : Database :=
  { (db.answer query).1 with
    cursors := db.cursors + 1
    events := db.events ++ queryEvents query (db.answer query).2 hearing }

section Steps

variable {e : Engine} {source : LogSource} {query : String} {token : Option TokenId}

theorem foldl_note (e : Engine) (everyone : List CursorId) :
    everyone.foldl (fun e _ => e.note .interrupted) e =
      { e with source := { e.source with db := { e.source.db with
        events := e.source.db.events ++ List.replicate everyone.length .interrupted } } } := by
  induction everyone generalizing e with
  | nil => simp
  | cons whom rest ih =>
      rw [List.foldl_cons, ih]
      simp [note, Database.note, List.replicate_succ]

/-- A cursor is opened, the query is answered and the cursor is closed, while the token
lives on. -/
theorem closeCursor_of_live {id : TokenId} (hnew : interruption source.db.cursors ∉
      (e.network.token id).callbacks) (db : Database) :
    closeCursor ⟨{ source with db }, e.network.append id (interruption source.db.cursors)⟩
        (some id) source.db.cursors =
      ⟨{ source with db := db.note .closed }, e.network⟩ := by
  unfold closeCursor note
  dsimp only
  rw [TokenNetwork.unregister_append hnew]

theorem cancelToken_of_live {id : TokenId} (hlt : id < e.network.tokens.length)
    (hlive : e.network.isCancelled id = false)
    (hsilent : e.network.reactionOf source.db.cursors = .nothing) (db : Database) :
    cancelToken ⟨{ source with db }, e.network.append id (interruption source.db.cursors)⟩
        (some id) =
      let hearing := (e.network.cancel id).notified.length + 1
      ⟨{ source with db := { db with
          events := db.events ++ List.replicate hearing .interrupted } },
        { e.network.cancel id with notified := [] }⟩ := by
  unfold cancelToken interruption
  dsimp only
  rw [TokenNetwork.cancel_append hlt hlive hsilent, foldl_note]
  simp [TokenNetwork.notifyAll]

theorem closeCursor_of_unknown {network : TokenNetwork CursorId} {id : TokenId} {cursor : CursorId}
    (hnew : interruption cursor ∉ (network.token id).callbacks) (s : LogSource) :
    closeCursor ⟨s, network⟩ (some id) cursor =
      ⟨{ s with db := s.db.note .closed }, network⟩ := by
  unfold closeCursor note
  dsimp only
  rw [TokenNetwork.unregister_of_notMem hnew]

/-- What is left when a cursor has been opened, the query has run and the cursor has been
closed again. -/
theorem closed_query (query : String) (hknows : e.network.KnowsOnly (· < source.db.cursors))
    (htoken : ∀ id ∈ token, id < e.network.tokens.length)
    (hlive : e.isCancelled token = false) :
    let opened := openCursor { e with source } token
    let ran := opened.1.runQuery token query
    let answer := (source.db.answer query).2
    opened.1.source.db.clock = source.db.clock ∧ ran.2 = answer ∧
      ran.1.closeCursor token opened.2 =
        ⟨{ source with db :=
            databaseAfter source.db query (e.hearing token answer.cancelsToken) },
          e.networkAfter token answer.cancelsToken⟩ := by
  intro opened ran answer
  have hunknown : ¬ source.db.cursors < source.db.cursors := Nat.lt_irrefl _
  cases token with
  | none =>
      have hran : ran = (⟨{ source with db := { (source.db.answer query).1 with
          cursors := source.db.cursors + 1 }.note (.statement query answer.fault.isNone) },
          e.network⟩, answer) := by
        simp [ran, opened, answer, runQuery, openCursor, Database.answer_withCursors, cancelToken]
      rw [hran]
      refine ⟨rfl, rfl, ?_⟩
      simp [closeCursor, note, Database.note, databaseAfter, queryEvents, hearing, networkAfter,
        answer]
  | some id =>
      have hlt := htoken id rfl
      have hnew : interruption source.db.cursors ∉ (e.network.token id).callbacks :=
        fun hmem => hunknown (hknows.registered id _ hmem)
      have hopened : opened = (⟨{ source with db := { source.db with
          cursors := source.db.cursors + 1 } },
          e.network.append id (interruption source.db.cursors)⟩, source.db.cursors) := by
        have hregister : e.network.register id (interruption source.db.cursors) =
            (e.network.append id (interruption source.db.cursors), none) := by
          unfold TokenNetwork.register
          rw [show e.network.isCancelled id = false from hlive]
          rfl
        simp [opened, openCursor, hregister]
      cases hcancels : answer.cancelsToken with
      | false =>
          have hran : ran = (⟨{ source with db := { (source.db.answer query).1 with
              cursors := source.db.cursors + 1 }.note (.statement query answer.fault.isNone) },
              e.network.append id (interruption source.db.cursors)⟩, answer) := by
            have hdoes : (source.db.answer query).2.cancelsToken = false := hcancels
            simp [ran, hopened, answer, runQuery, Database.answer_withCursors, hdoes]
          rw [hran, hopened]
          refine ⟨rfl, rfl, ?_⟩
          rw [closeCursor_of_live hnew]
          simp [Database.note, databaseAfter, queryEvents, hearing, networkAfter, answer]
      | true =>
          have hran : ran = (⟨{ source with db := { (source.db.answer query).1 with
              cursors := source.db.cursors + 1, events := source.db.events ++
                .statement query answer.fault.isNone ::
                  List.replicate ((e.network.cancel id).notified.length + 1) .interrupted } },
              { e.network.cancel id with notified := [] }⟩, answer) := by
            have hdoes : (source.db.answer query).2.cancelsToken = true := hcancels
            have hsilent := hknows.reacting source.db.cursors hunknown
            simp only [ran, hopened, runQuery, Database.answer_withCursors, hdoes, if_true]
            rw [cancelToken_of_live hlt hlive hsilent]
            simp [Database.note, answer]
          have hforgotten : interruption source.db.cursors ∉
              (({ e.network.cancel id with notified := [] } :
                TokenNetwork CursorId).token id).callbacks :=
            fun hmem => hunknown ((hknows.cancel id).registered id _ hmem)
          rw [hran, hopened]
          refine ⟨rfl, rfl, ?_⟩
          rw [closeCursor_of_unknown hforgotten]
          simp [Database.note, databaseAfter, queryEvents, hearing, networkAfter, answer]

/-- Under a token that is alive a query opens a cursor and closes it, and between these
the token may be cancelled. -/
theorem execute_of_connected (query : String) (hclean : e.IsClean)
    (htoken : ∀ id ∈ token, id < e.network.tokens.length)
    (hlive : e.isCancelled token = false)
    (hconnect : LogSource.connect e.source = (.ok (), source)) :
    let answer := (source.db.answer query).2
    let db := databaseAfter source.db query (e.hearing token answer.cancelsToken)
    let after : Engine := ⟨{ source with db }, e.networkAfter token answer.cancelsToken⟩
    e.execute query token = (after, outcome answer (after.isCancelled token) query
      (db.clock.millisSince source.db.clock)) := by
  intro answer db after
  have hcursors : source.db.cursors = e.source.db.cursors := by
    have hsame := e.source.connect_leaves.1
    rwa [hconnect] at hsame
  have hknows : e.network.KnowsOnly (· < source.db.cursors) := by
    rw [hcursors]
    exact hclean
  obtain ⟨hclock, hanswer, hclosed⟩ := closed_query query hknows htoken hlive
  unfold execute
  rw [hlive, hconnect]
  simp only [hclock, hanswer, hclosed]
  rfl

theorem execute_of_refused {fault : Fault} (hlive : e.isCancelled token = false)
    (hconnect : LogSource.connect e.source = (.error fault, source)) :
    e.execute query token = ({ e with source }, .error fault) := by
  unfold execute
  rw [hlive, hconnect]
  rfl

theorem execute_of_cancelled (hcancelled : e.isCancelled token = true) :
    e.execute query token = (e, .error (.query .stopped)) := by
  unfold execute
  rw [hcancelled]
  rfl

end Steps

/-! ## What a query leaves and what it reports -/

/-- What is left of a query that has found a connection at `source`. -/
structure CleansUp (e : Engine) (source : LogSource) (query : String)
    (token : Option TokenId) (after : Engine) : Prop where
  opened : after.source.db.cursors = source.db.cursors + 1
  events : after.source.db.events = source.db.events ++
    queryEvents query (source.db.answer query).2
      (e.hearing token (source.db.answer query).2.cancelsToken)
  forgotten : ∀ id,
    interruption source.db.cursors ∉ (after.network.token id).callbacks
  others : after.network = e.networkAfter token (source.db.answer query).2.cancelsToken
  isCancelled : after.isCancelled token =
    (token.isSome && (source.db.answer query).2.cancelsToken)
  isClean : after.IsClean

/-- What is reported of an answer, when the token is cancelled by then or is not. -/
inductive Reports (query : String) (answer : StatementAnswer) (cancelled : Bool)
    (elapsed : Binary64) : Except Fault QueryResult → Prop where
  | interrupted {text : String}
      (hfault : answer.fault = some (.database Fault.interruptKind text)) :
      Reports query answer cancelled elapsed (.error (.query .stopped))
  | failedLate {kind text : String} (hfault : answer.fault = some (.database kind text))
      (hcancelled : cancelled = true) :
      Reports query answer cancelled elapsed (.error (.query .stopped))
  | answeredLate (hfault : answer.fault = none) (hcancelled : cancelled = true) :
      Reports query answer cancelled elapsed (.error (.query .stopped))
  | rejected {kind text : String} (hfault : answer.fault = some (.database kind text))
      (hkind : kind ≠ Fault.interruptKind) (hlive : cancelled = false) :
      Reports query answer cancelled elapsed
        (.error (.query (.rejected text (some kind) (some query))))
  | foreign {fault : Fault} (hfault : answer.fault = some fault)
      (hforeign : ∀ kind text, fault ≠ .database kind text) :
      Reports query answer cancelled elapsed (.error fault)
  | rows (hfault : answer.fault = none) (hlive : cancelled = false) :
      Reports query answer cancelled elapsed (.ok { QueryResult.ofRecords answer.columns
        answer.records with networkTime := some elapsed })

theorem reports_outcome (query : String) (answer : StatementAnswer) (cancelled : Bool)
    (elapsed : Binary64) :
    Reports query answer cancelled elapsed (outcome answer cancelled query elapsed) := by
  unfold outcome
  cases hfault : answer.fault with
  | none =>
      cases cancelled with
      | true => exact .answeredLate hfault rfl
      | false => exact .rows hfault rfl
  | some fault =>
      cases fault with
      | database kind text =>
          by_cases hkind : kind = Fault.interruptKind
          · subst hkind
            simp only [report, decide_true, Bool.true_or, if_true]
            exact .interrupted hfault
          · simp only [report, hkind, decide_false, Bool.false_or]
            cases cancelled with
            | true => exact .failedLate hfault rfl
            | false => exact .rejected hfault hkind rfl
      | _ =>
          simp only [report]
          exact .foreign hfault nofun

theorem live_of_reports_ok {query : String} {answer : StatementAnswer} {cancelled : Bool}
    {elapsed : Binary64} {result : QueryResult}
    (hreports : Reports query answer cancelled elapsed (.ok result)) : cancelled = false := by
  cases hreports with
  | rows hfault hlive => exact hlive

theorem stopped_of_reports {query : String} {answer : StatementAnswer} {cancelled : Bool}
    {elapsed : Binary64} {outcome : Except Fault QueryResult}
    (hreports : Reports query answer cancelled elapsed outcome) (hanswered : answer.fault = none)
    (hcancelled : cancelled = true) : outcome = .error (.query .stopped) := by
  cases hreports with
  | interrupted hfault => rfl
  | failedLate hfault hcancels => rfl
  | answeredLate hfault hcancels => rfl
  | rejected hfault hkind hlive => rw [hcancelled] at hlive; cases hlive
  | foreign hfault hforeign => rw [hanswered] at hfault; cases hfault
  | rows hfault hlive => rw [hcancelled] at hlive; cases hlive

section Queries

variable {e : Engine} {source : LogSource} {token : Option TokenId}

theorem knowsOnly_networkAfter {known : CursorId → Prop}
    (hknows : e.network.KnowsOnly known) (token : Option TokenId) (cancels : Bool) :
    (e.networkAfter token cancels).KnowsOnly known := by
  unfold networkAfter
  split
  · exact (hknows.cancel _).of_callbacks rfl fun _ _ hmem => .inr hmem
  · exact hknows

theorem isCancelled_networkAfter (htoken : ∀ id ∈ token, id < e.network.tokens.length)
    (hlive : e.isCancelled token = false) (cancels : Bool) (source : LogSource) :
    (⟨source, e.networkAfter token cancels⟩ : Engine).isCancelled token =
      (token.isSome && cancels) := by
  cases token with
  | none => rfl
  | some id =>
      cases cancels with
      | false => exact hlive
      | true => exact TokenNetwork.isCancelled_cancel (htoken id rfl)

theorem cleansUp_execute (query : String) (hclean : e.IsClean)
    (htoken : ∀ id ∈ token, id < e.network.tokens.length)
    (hlive : e.isCancelled token = false)
    (hconnect : LogSource.connect e.source = (.ok (), source)) :
    e.CleansUp source query token (e.execute query token).1 := by
  have hcursors : source.db.cursors = e.source.db.cursors := by
    have hsame := e.source.connect_leaves.1
    rwa [hconnect] at hsame
  have hknows := knowsOnly_networkAfter hclean token (source.db.answer query).2.cancelsToken
  rw [execute_of_connected query hclean htoken hlive hconnect]
  constructor
  case opened => rfl
  case events => rfl
  case forgotten =>
      intro id hmem
      have hlt : source.db.cursors < e.source.db.cursors := hknows.registered id _ hmem
      omega
  case others => rfl
  case isCancelled => exact isCancelled_networkAfter htoken hlive _ _
  case isClean =>
      apply hknows.mono
      intro cursor (hlt : cursor < e.source.db.cursors)
      change cursor < source.db.cursors + 1
      rw [hcursors]
      exact Nat.lt_succ_of_lt hlt

end Queries

/-- A query under a cancelled token opens no cursor, nor does one that finds no
connection.  Every other closes the cursor that it opens, leaves nothing of it with the
tokens, and reports what became of it: rows only while the token is alive. -/
theorem execute_cleans_up (e : Engine) (query : String) (token : Option TokenId)
    (hclean : e.IsClean) (htoken : ∀ id ∈ token, id < e.network.tokens.length) :
    (e.isCancelled token = true →
      e.execute query token = (e, .error (.query .stopped))) ∧
    (e.isCancelled token = false → ∀ fault source,
      LogSource.connect e.source = (.error fault, source) →
      e.execute query token = ({ e with source }, .error fault) ∧
        source.db.cursors = e.source.db.cursors) ∧
    (e.isCancelled token = false → ∀ source,
      LogSource.connect e.source = (.ok (), source) →
      ∃ after outcome, e.execute query token = (after, outcome) ∧
        e.CleansUp source query token after ∧
        Reports query (source.db.answer query).2 (after.isCancelled token)
          (after.source.db.clock.millisSince source.db.clock) outcome ∧
        ∀ result, outcome = .ok result → after.isCancelled token = false) := by
  refine ⟨execute_of_cancelled, fun hlive fault source hconnect => ?_,
    fun hlive source hconnect => ?_⟩
  · refine ⟨execute_of_refused hlive hconnect, ?_⟩
    have hsame := e.source.connect_leaves.1
    rwa [hconnect] at hsame
  · have hcleans := cleansUp_execute query hclean htoken hlive hconnect
    have hrun := execute_of_connected query hclean htoken hlive hconnect
    rw [hrun] at hcleans
    refine ⟨_, _, hrun, hcleans, reports_outcome _ _ _ _, ?_⟩
    intro result hresult
    exact live_of_reports_ok (hresult ▸ reports_outcome _ _ _ _)

/-- A token that someone else listens to is cancelled while the query runs. -/
def interrupted : Engine where
  source := { db := {
    script := [{ parts := ["SELECT"], answer := { columns := ["dim"], cancelsToken := true } }]
    cursors := 1 } }
  network := { tokens := [⟨false, [.notify 0]⟩] }

theorem isClean_interrupted : interrupted.IsClean := by
  constructor
  case registered =>
      intro id whom hmem
      match id with
      | 0 =>
          obtain rfl : whom = 0 := by simpa [interrupted, TokenNetwork.token] using hmem
          decide
      | n + 1 => simp [interrupted, TokenNetwork.token] at hmem
  case listening =>
      intro whom id other hreaction
      simp [interrupted, TokenNetwork.reactionOf] at hreaction
  case reacting => exact fun whom _ => rfl

theorem cancel_interrupted : interrupted.network.cancel 0 =
    { tokens := [⟨true, []⟩], notified := [0] } := by
  have hfound : interrupted.network.tokens[0]? = some ⟨false, [.notify 0]⟩ := rfl
  rw [TokenNetwork.cancel, TokenNetwork.run_cancel_of_live hfound rfl]
  simp only [List.append_nil]
  rw [TokenNetwork.run_notify, TokenNetwork.heard_of_silent rfl]
  exact TokenNetwork.run.eq_def _ []

theorem execute_cleans_up_interrupted :
    interrupted.IsClean ∧ interrupted.isCancelled (some 0) = false ∧
      ∃ after, interrupted.execute "SELECT" (some 0) = (after, .error (.query .stopped)) ∧
        after.source.db.events = [.connected ":memory:", .statement "SELECT" true,
          .interrupted, .interrupted, .closed] ∧
        after.network = { tokens := [⟨true, []⟩] } := by
  refine ⟨isClean_interrupted, rfl, ?_⟩
  have htoken : ∀ id ∈ some 0, id < interrupted.network.tokens.length := by
    simp [interrupted]
  let opened : LogSource := { interrupted.source with
    isConnected := true, db := interrupted.source.db.note (.connected ":memory:") }
  have hconnect : LogSource.connect interrupted.source = (.ok (), opened) := rfl
  have hanswer : (opened.db.answer "SELECT").2 = { columns := ["dim"], cancelsToken := true } := by
    decide +kernel
  obtain ⟨-, -, hruns⟩ := execute_cleans_up interrupted "SELECT" (some 0) isClean_interrupted htoken
  obtain ⟨after, outcome, hrun, hcleans, hreports, -⟩ := hruns rfl opened hconnect
  have hcancelled := hcleans.isCancelled
  have hevents := hcleans.events
  have hothers := hcleans.others
  rw [hanswer] at hcancelled hevents hothers hreports
  rw [hcancelled] at hreports
  refine ⟨after, ?_, ?_, ?_⟩
  · rw [hrun, stopped_of_reports hreports rfl rfl]
  · have hheard : interrupted.hearing (some 0) true = 2 := by
      simp [hearing, cancel_interrupted]
    rw [hevents, hheard]
    rfl
  · rw [hothers]
    simp [networkAfter, cancel_interrupted]

/-! ## Any number of queries -/

/-- Queries run one after the other, each under its token. -/
def executeAll (e : Engine) (queries : List (String × Option TokenId)) : Engine :=
  queries.foldl (fun e query => (e.execute query.1 query.2).1) e

/-- No token knows a cursor that is still to be opened, all tokens are still there, and
as many cursors were closed as were opened. -/
structure Balances (e next : Engine) : Prop where
  isClean : next.IsClean
  advances : e.network.Advances next.network
  closed : next.source.db.cursors + e.source.db.events.count .closed =
    e.source.db.cursors + next.source.db.events.count .closed

theorem advances_networkAfter (e : Engine) (token : Option TokenId) (cancels : Bool) :
    e.network.Advances (e.networkAfter token cancels) := by
  unfold networkAfter
  split
  · exact (TokenNetwork.advances_cancel _ _).trans (TokenNetwork.advances_of_tokens rfl)
  · exact .refl _

section Balance

variable {e : Engine} {token : Option TokenId}

theorem count_closed_queryEvents (query : String) (answer : StatementAnswer) (hearing : Nat) :
    (queryEvents query answer hearing).count .closed = 1 := by
  simp [queryEvents, List.count_replicate]

theorem balances_execute (query : String) (hclean : e.IsClean)
    (htoken : ∀ id ∈ token, id < e.network.tokens.length) :
    e.Balances (e.execute query token).1 := by
  cases hlive : e.isCancelled token with
  | true =>
      rw [execute_of_cancelled hlive]
      exact ⟨hclean, .refl _, rfl⟩
  | false =>
      obtain ⟨hcursors, hclosed⟩ := e.source.connect_leaves
      rcases hconnect : LogSource.connect e.source with ⟨fault | u, source⟩
      · rw [hconnect] at hcursors hclosed
        rw [execute_of_refused hlive hconnect]
        refine ⟨?_, .refl _, by rw [hcursors, hclosed]⟩
        unfold IsClean
        rw [hcursors]
        exact hclean
      · rw [hconnect] at hcursors hclosed
        have hcleans := cleansUp_execute query hclean htoken hlive hconnect
        refine ⟨hcleans.isClean, ?_, ?_⟩
        · rw [hcleans.others]
          exact advances_networkAfter e token _
        · rw [hcleans.opened, hcleans.events, List.count_append, count_closed_queryEvents,
            hcursors, hclosed]
          omega

theorem balances_executeAll {queries : List (String × Option TokenId)} (hclean : e.IsClean)
    (htokens : ∀ query ∈ queries, ∀ id ∈ query.2, id < e.network.tokens.length) :
    e.Balances (e.executeAll queries) := by
  induction queries generalizing e with
  | nil => exact ⟨hclean, .refl _, rfl⟩
  | cons query rest ih =>
      have hfirst := balances_execute query.1 hclean
        (htokens query List.mem_cons_self)
      have hlater := ih hfirst.isClean fun other hmem id hid =>
        Nat.lt_of_lt_of_le (htokens other (List.mem_cons_of_mem _ hmem) id hid)
          hfirst.advances.length_le
      refine ⟨hlater.isClean, hfirst.advances.trans hlater.advances, ?_⟩
      have hbefore := hfirst.closed
      have hafter := hlater.closed
      change (((e.execute query.1 query.2).1).executeAll rest).source.db.cursors + _ =
        _ + (((e.execute query.1 query.2).1).executeAll rest).source.db.events.count .closed
      omega

end Balance

end Engine

end RequestBreakdown
