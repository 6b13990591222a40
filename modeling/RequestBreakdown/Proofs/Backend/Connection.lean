import Mathlib.Data.List.Induction
import RequestBreakdown.Backend.Source
import RequestBreakdown.Proofs.Backend.Statements

/-!
# Connections and the number of threads

A source that has a number of threads tells it to the database when it connects.
The connection stays open when the database refuses that, and is handed out from
then on: only the call that has opened it ends in a fault.
-/

namespace RequestBreakdown

inductive SourceCall where
  | connect
  | close
  | createTable (replaceExisting : Bool)
  | load
  | insertRows (rows : Value)
  | rowCount (table : Value)
  | timeRange
  deriving DecidableEq, Repr

namespace SourceCall

def run : SourceCall → SourceM Unit
  | .connect => LogSource.connect
  | .close => LogSource.close
  | .createTable replaceExisting => LogSource.createTable replaceExisting
  | .load => discard LogSource.load
  | .insertRows rows => LogSource.insertRows rows
  | .rowCount table => discard (LogSource.rowCount table)
  | .timeRange => discard LogSource.timeRange

/-- Whether the call needs a connection. -/
def needsConnection (s : LogSource) : SourceCall → Bool
  | .close => false
  | .load => s.directory.isSome
  | .insertRows rows => rows.isPresent
  | _ => true

end SourceCall

/-- Whether the connection has been told, if it had or had not been before the event.
A new connection has not. -/
def DatabaseEvent.tell (setting : String) (told : Bool) : DatabaseEvent → Bool
  | .connected _ => false
  | .statement sql true => told || sql == setting
  | _ => told

namespace LogSource

/-- The statement that tells a connection how many threads to use. -/
def setting (s : LogSource) : String := "SET threads TO " ++ s.threads.display

/-- Whether the last connection has accepted the number of threads. -/
def isTold (s : LogSource) : Bool :=
  s.db.events.foldl (DatabaseEvent.tell s.setting) false

def after (s : LogSource) (call : SourceCall) : LogSource := (call.run s).2

/-- Calls are made one after the other, also after one that has ended in a fault. -/
def afterAll (s : LogSource) (calls : List SourceCall) : LogSource := calls.foldl after s

/-- A connection that has not been told is handed out, to the caller or to what the call
goes on with. -/
def HandsOutUntold (s : LogSource) (call : SourceCall) : Prop :=
  call.needsConnection s = true ∧ (connect s).1 = .ok () ∧ (connect s).2.isTold = false

/-- The call opens a connection, and that refuses the number of threads. -/
def IsRefusedBy (s : LogSource) (call : SourceCall) : Prop :=
  call.needsConnection s = true ∧ s.isConnected = false ∧
    ∃ fault, (connect s).1 = .error fault

/-! ## Connecting -/

section Connecting

variable {s : LogSource}

/-- The source with a connection that has just been opened. -/
def opened (s : LogSource) : LogSource :=
  { s with isConnected := true, db := s.db.note (.connected s.database.display) }

theorem connect_of_open (hopen : s.isConnected = true) : connect s = (.ok (), s) := by
  unfold connect
  rw [Stateful.run_bind, Stateful.run_get]
  dsimp only
  rw [hopen]
  rfl

theorem connect_of_unset (hclosed : s.isConnected = false) (hthreads : s.threads = .null) :
    connect s = (.ok (), s.opened) := by
  unfold connect
  rw [Stateful.run_bind, Stateful.run_get]
  dsimp only
  rw [hclosed, if_neg Bool.false_ne_true]
  split
  · rfl
  · exact absurd hthreads ‹_›

theorem connect_of_set (hclosed : s.isConnected = false) (hthreads : s.threads ≠ .null) :
    connect s =
      (discard (withDatabase (DatabaseM.execute s.setting)) : SourceM Unit) s.opened := by
  unfold connect
  rw [Stateful.run_bind, Stateful.run_get]
  dsimp only
  rw [hclosed, if_neg Bool.false_ne_true]
  split
  · exact absurd ‹_› hthreads
  · rfl

end Connecting

/-! ## A connection in use -/

/-- Only the database has changed, and the connection has been told if it had been. -/
structure Onward (s next : LogSource) : Prop where
  only_db : next = { s with db := next.db }
  isTold_eq : next.isTold = s.isTold

section Onward

variable {s next last : LogSource}

theorem Onward.refl (s : LogSource) : s.Onward s := ⟨rfl, rfl⟩

theorem Onward.trans (hfirst : s.Onward next) (hthen : next.Onward last) :
    s.Onward last := by
  constructor
  · rw [hthen.only_db, hfirst.only_db]
  · exact hthen.isTold_eq.trans hfirst.isTold_eq

theorem Onward.isConnected_eq (honward : s.Onward next) :
    next.isConnected = s.isConnected := by
  rw [honward.only_db]

theorem onward_of_event {db : Database} {event : DatabaseEvent}
    (hevents : db.events = s.db.events ++ [event])
    (hsilent : ∀ told, event.tell s.setting told = told) :
    s.Onward { s with db } := by
  refine ⟨rfl, ?_⟩
  unfold isTold setting
  dsimp only
  rw [hevents, List.foldl_append]
  exact hsilent _

end Onward

/-- The statement tells nothing about threads: it begins with another word. -/
def IsOther (sql : String) : Prop :=
  4 ≤ sql.toList.length ∧ sql.toList.take 4 ≠ "SET ".toList

theorem IsOther.append {front : String} (hother : IsOther front) (back : String) :
    IsOther (front ++ back) := by
  obtain ⟨hlong, hword⟩ := hother
  unfold IsOther
  rw [String.toList_append, List.take_append_of_le_length hlong]
  refine ⟨?_, hword⟩
  rw [List.length_append]
  omega

theorem IsOther.ne_setting {sql : String} (hother : IsOther sql) (s : LogSource) :
    (sql == s.setting) = false := by
  rw [beq_eq_false_iff_ne]
  rintro rfl
  apply hother.2
  unfold setting
  rw [String.toList_append, List.take_append_of_le_length (by decide)]
  decide

/-- A computation goes on with a connection that is open. -/
def Keeps {α : Type} (x : SourceM α) : Prop :=
  ∀ s : LogSource, s.isConnected = true → s.Onward (x s).2

section Keeps

variable {α β : Type} {x : SourceM α}

theorem keeps_bind {f : α → SourceM β} (hx : Keeps x) (hf : ∀ a, Keeps (f a)) :
    Keeps (x >>= f) := by
  intro s hopen
  have hfirst := hx s hopen
  rw [Stateful.run_bind]
  rcases hrun : x s with ⟨fault | a, next⟩
  · rw [hrun] at hfirst
    exact hfirst
  · rw [hrun] at hfirst
    exact hfirst.trans (hf a next (hfirst.isConnected_eq.trans hopen))

theorem keeps_of_run {outcome : LogSource → Except Fault α}
    (hrun : ∀ s, x s = (outcome s, s)) : Keeps x := by
  intro s _
  rw [hrun]
  exact .refl s

theorem keeps_pure (a : α) : Keeps (pure a) := keeps_of_run fun _ => rfl

theorem keeps_get : Keeps (get : SourceM LogSource) := keeps_of_run fun _ => rfl

theorem keeps_throw (fault : Fault) : Keeps (throw fault : SourceM α) :=
  keeps_of_run fun _ => rfl

theorem keeps_ofOutcome (outcome : Except Fault α) : Keeps (ofOutcome outcome) :=
  keeps_of_run fun s => Stateful.run_ofExcept outcome s

theorem keeps_discard (hx : Keeps x) : Keeps (discard x) :=
  keeps_bind hx fun _ => keeps_pure ()

theorem keeps_forM {items : List α} {f : α → SourceM Unit}
    (hf : ∀ a, Keeps (f a)) : Keeps (items.forM f) := by
  induction items with
  | nil => exact keeps_pure ()
  | cons a rest ih => exact keeps_bind (hf a) fun _ => ih

theorem keeps_mapM {items : List α} {f : α → SourceM β} (hf : ∀ a, Keeps (f a)) :
    Keeps (items.mapM f) := by
  induction items with
  | nil => exact keeps_pure []
  | cons a rest ih =>
      rw [List.mapM_cons]
      apply keeps_bind (hf a)
      intro b
      apply keeps_bind ih
      intro others
      exact keeps_pure _

theorem keeps_connect : Keeps connect := by
  intro s hopen
  rw [connect_of_open hopen]
  exact .refl s

theorem keeps_statement {sql : String} (hother : IsOther sql) :
    Keeps (withDatabase (DatabaseM.execute sql)) := by
  intro s _
  have htell : ∀ accepted told,
      (DatabaseEvent.statement sql accepted).tell s.setting told = told := by
    intro accepted told
    cases accepted <;> simp [DatabaseEvent.tell, hother.ne_setting s]
  rcases DatabaseM.execute_cases sql s.db with
    ⟨answer, db, hrun, hevents⟩ | ⟨fault, db, hrun, hevents⟩
  · simp only [withDatabase, hrun]
    exact onward_of_event hevents (htell true)
  · simp only [withDatabase, hrun]
    exact onward_of_event hevents (htell false)

theorem keeps_executeBatch (sql : String) (records : List (List Value)) :
    Keeps (withDatabase (DatabaseM.executeBatch sql records)) := by
  intro s _
  obtain ⟨outcome, db, hrun, hevents⟩ := DatabaseM.executeBatch_cases sql records s.db
  simp only [withDatabase, hrun]
  exact onward_of_event hevents fun _ => rfl

theorem keeps_execute {sql : String} (hother : IsOther sql) : Keeps (execute sql) :=
  keeps_bind keeps_connect fun _ => keeps_statement hother

end Keeps

/-! ## The calls -/

theorem keeps_createTable (replaceExisting : Bool) : Keeps (createTable replaceExisting) := by
  apply keeps_bind keeps_connect
  intro _
  apply keeps_bind keeps_get
  intro s
  apply keeps_discard
  apply keeps_execute
  have hverb : IsOther (if replaceExisting then "CREATE OR REPLACE TABLE"
      else "CREATE TABLE IF NOT EXISTS") := by
    unfold IsOther
    cases replaceExisting <;> decide
  repeat' apply IsOther.append
  exact hverb

theorem isOther_insertStatement (table files : String) (columns : List (String × String)) :
    IsOther (insertStatement table files columns) := by
  have hverb : IsOther "INSERT INTO " := by
    unfold IsOther
    decide
  unfold insertStatement
  repeat' apply IsOther.append
  exact hverb

theorem keeps_loadFormat (directory : Path) (format : LogFormat) :
    Keeps (loadFormat directory format) := by
  have hdescribe : IsOther "DESCRIBE SELECT * FROM " := by
    unfold IsOther
    decide
  apply keeps_bind keeps_get
  intro s
  split
  · exact keeps_pure ()
  · apply keeps_bind (keeps_execute (hdescribe.append _))
    intro description
    apply keeps_bind (keeps_mapM fun record => keeps_ofOutcome (describedName record))
    intro described
    extract_lets columns
    split
    · exact keeps_pure ()
    · exact keeps_discard (keeps_execute (isOther_insertStatement _ _ _))

theorem keeps_rowCount (table : Value) : Keeps (rowCount table) := by
  have hselect : IsOther "SELECT COUNT(*) FROM " := by
    unfold IsOther
    decide
  apply keeps_bind keeps_connect
  intro _
  apply keeps_bind keeps_get
  intro s
  apply keeps_bind (keeps_execute (hselect.append _))
  intro answer
  split
  · exact keeps_throw _
  · exact keeps_throw _
  · exact keeps_pure _

theorem keeps_load : Keeps load := by
  apply keeps_bind keeps_get
  intro s
  split
  · exact keeps_throw _
  · apply keeps_bind (keeps_createTable true)
    intro _
    apply keeps_bind (keeps_forM fun format => keeps_loadFormat _ format)
    intro _
    exact keeps_rowCount .null

theorem keeps_timeRange : Keeps timeRange := by
  have hselect : IsOther "SELECT MIN(timestamp), MAX(timestamp) FROM " := by
    unfold IsOther
    decide
  apply keeps_bind keeps_connect
  intro _
  apply keeps_bind keeps_get
  intro s
  apply keeps_bind (keeps_execute ((hselect.append _).append _))
  intro answer
  split
  · exact keeps_pure _
  · exact keeps_pure _
  · split
    · exact keeps_throw _
    · exact keeps_pure _
  · exact keeps_pure _

theorem keeps_insertRows (rows : Value) : Keeps (insertRows rows) := by
  unfold insertRows
  split
  · apply keeps_bind keeps_connect
    intro _
    apply keeps_bind keeps_get
    intro s
    apply keeps_bind (keeps_ofOutcome _)
    intro found
    exact keeps_executeBatch _ _
  · exact keeps_pure ()

theorem keeps_run (call : SourceCall) (hcall : call ≠ .close) : Keeps call.run := by
  cases call with
  | connect => exact keeps_connect
  | close => exact absurd rfl hcall
  | createTable replaceExisting => exact keeps_createTable replaceExisting
  | load => exact keeps_discard keeps_load
  | insertRows rows => exact keeps_insertRows rows
  | rowCount table => exact keeps_discard (keeps_rowCount table)
  | timeRange => exact keeps_discard keeps_timeRange

/-- A connection that is opened has been told unless it refuses the number of threads. -/
theorem connect_of_closed {s : LogSource} (hthreads : s.threads ≠ .null)
    (hclosed : s.isConnected = false) :
    ∃ outcome next, connect s = (outcome, next) ∧ next.isConnected = true ∧
      next.directory = s.directory ∧ next.threads = s.threads ∧
      (next.isTold = true ↔ outcome = .ok ()) := by
  have htold : ∀ (db : Database) (accepted : Bool),
      db.events = s.opened.db.events ++ [.statement s.setting accepted] →
      ({ s.opened with db } : LogSource).isTold = accepted := by
    intro db accepted hevents
    have hsetting : ({ s.opened with db } : LogSource).setting = s.setting := rfl
    unfold isTold
    rw [hsetting]
    dsimp only
    rw [hevents, List.foldl_append]
    unfold opened
    rw [Database.events_note, List.foldl_append]
    cases accepted <;> simp [DatabaseEvent.tell]
  rw [connect_of_set hclosed hthreads, Stateful.run_discard]
  rcases DatabaseM.execute_cases s.setting s.opened.db with
    ⟨answer, db, hexecute, hevents⟩ | ⟨fault, db, hexecute, hevents⟩
  · simp only [withDatabase, hexecute]
    exact ⟨_, _, rfl, rfl, rfl, rfl, by simp [htold db true hevents]⟩
  · simp only [withDatabase, hexecute]
    exact ⟨_, _, rfl, rfl, rfl, rfl, by simp [htold db false hevents]⟩

theorem connect_spec {s : LogSource} (hthreads : s.threads ≠ .null) :
    ∃ outcome next, connect s = (outcome, next) ∧ next.isConnected = true ∧
      next.directory = s.directory ∧ next.threads = s.threads := by
  cases hopen : s.isConnected with
  | true => exact ⟨_, s, connect_of_open hopen, hopen, rfl, rfl⟩
  | false =>
      obtain ⟨outcome, next, hrun, hnext, hdirectory, hsame, -⟩ :=
        connect_of_closed hthreads hopen
      exact ⟨outcome, next, hrun, hnext, hdirectory, hsame⟩

section ConnectsFirst

variable {α β : Type} {x : SourceM α} {s : LogSource}

/-- The computation connects before all else, when it runs at a source. -/
def ConnectsFirst (s : LogSource) (x : SourceM α) : Prop :=
  x s = (connect >>= fun _ => x) s

theorem connectsFirst_connect (hthreads : s.threads ≠ .null) :
    ConnectsFirst s connect := by
  unfold ConnectsFirst
  obtain ⟨outcome, next, hrun, hnext, -, -⟩ := connect_spec hthreads
  rw [Stateful.run_bind, hrun]
  cases outcome with
  | error fault => rfl
  | ok u => exact (connect_of_open hnext).symm

theorem ConnectsFirst.bind (hx : ConnectsFirst s x) (f : α → SourceM β) :
    ConnectsFirst s (x >>= f) := by
  unfold ConnectsFirst at hx ⊢
  rw [Stateful.run_bind, hx, Stateful.run_bind, Stateful.run_bind]
  rcases connect s with ⟨fault | u, next⟩
  · rfl
  · exact (Stateful.run_bind x f next).symm

end ConnectsFirst

/-- A call that needs a connection connects before all else. -/
theorem connectsFirst_run {s : LogSource} (hthreads : s.threads ≠ .null)
    {call : SourceCall} (hneeds : call.needsConnection s = true) :
    ConnectsFirst s call.run := by
  have hconnect := connectsFirst_connect hthreads
  cases call with
  | connect => exact hconnect
  | close => exact absurd hneeds (by simp [SourceCall.needsConnection])
  | createTable replaceExisting => exact hconnect.bind _
  | rowCount table => exact (hconnect.bind _).bind _
  | timeRange => exact (hconnect.bind _).bind _
  | insertRows rows =>
      have hsome : rows.isPresent = true := hneeds
      change ConnectsFirst s (insertRows rows)
      unfold insertRows
      rw [if_pos hsome]
      exact hconnect.bind _
  | load =>
      obtain ⟨directory, hdirectory⟩ := Option.isSome_iff_exists.mp hneeds
      let fromDirectory : SourceM Value := do
        createTable true
        LogFormat.all.forM (loadFormat directory)
        rowCount .null
      have hload : ∀ s' : LogSource, s'.directory = some directory →
          load s' = fromDirectory s' := by
        intro s' hsame
        unfold load
        rw [Stateful.run_bind, Stateful.run_get]
        dsimp only
        rw [hsame]
      have hfirst : ConnectsFirst s fromDirectory := (hconnect.bind _).bind _
      have hloads : ConnectsFirst s load := by
        -- Connecting leaves the directory, which decides how loading goes on.
        obtain ⟨outcome, next, hrun, -, hkept, -⟩ := connect_spec hthreads
        unfold ConnectsFirst at hfirst ⊢
        rw [Stateful.run_bind, hrun] at hfirst ⊢
        rw [hload s hdirectory, hfirst]
        cases outcome with
        | error fault => rfl
        | ok u => exact (hload next (hkept.trans hdirectory)).symm
      exact hloads.bind _

/-! ## Any number of calls -/

/-- The connection is open and has not been told. -/
def IsOpenUntold (s : LogSource) : Prop := s.isConnected = true ∧ s.isTold = false

section Calls

variable {s : LogSource} {call : SourceCall}

theorem after_of_not_needsConnection (hneeds : call.needsConnection s = false)
    (hcall : call ≠ .close) : s.after call = s := by
  cases call with
  | close => exact absurd rfl hcall
  | load =>
      have hnone : s.directory = none := by simpa [SourceCall.needsConnection] using hneeds
      change (discard load s).2 = s
      unfold load
      rw [Stateful.run_discard, Stateful.run_bind, Stateful.run_get]
      dsimp only
      rw [hnone]
      rfl
  | insertRows rows =>
      have hnone : rows.isPresent = false := hneeds
      change (insertRows rows s).2 = s
      unfold insertRows
      rw [hnone]
      rfl
  | _ => exact absurd hneeds (by simp [SourceCall.needsConnection])

theorem after_close :
    (s.after .close).isConnected = false ∧ (s.after .close).threads = s.threads := by
  change (close s).2.isConnected = false ∧ (close s).2.threads = s.threads
  unfold close
  rw [Stateful.run_bind, Stateful.run_get]
  dsimp only
  cases hopen : s.isConnected with
  | true => exact ⟨rfl, rfl⟩
  | false => exact ⟨hopen, rfl⟩

theorem ne_close_of_needsConnection (hneeds : call.needsConnection s = true) :
    call ≠ .close := by
  rintro rfl
  exact absurd hneeds (by simp [SourceCall.needsConnection])

/-- A call that needs a connection goes on with the one that connecting gives. -/
theorem onward_after (hthreads : s.threads ≠ .null)
    (hneeds : call.needsConnection s = true) :
    (connect s).2.Onward (s.after call) := by
  obtain ⟨outcome, next, hrun, hopen, -, -⟩ := connect_spec hthreads
  unfold after
  rw [connectsFirst_run hthreads hneeds, Stateful.run_bind, hrun]
  cases outcome with
  | error fault => exact .refl next
  | ok u => exact keeps_run call (ne_close_of_needsConnection hneeds) next hopen

theorem threads_after (hthreads : s.threads ≠ .null) :
    (s.after call).threads = s.threads := by
  by_cases hcall : call = .close
  · rw [hcall]
    exact after_close.2
  cases hneeds : call.needsConnection s with
  | false => rw [after_of_not_needsConnection hneeds hcall]
  | true =>
      obtain ⟨outcome, next, hrun, -, -, hsame⟩ := connect_spec hthreads
      have honward := onward_after hthreads hneeds
      rw [hrun] at honward
      rw [honward.only_db]
      exact hsame

/-- After a call a connection is open that has not been told, if the call has opened it
and was refused, or if it was open before and the call does not close it. -/
theorem isOpenUntold_after_iff (hthreads : s.threads ≠ .null) :
    (s.after call).IsOpenUntold ↔
      s.IsRefusedBy call ∨ (s.IsOpenUntold ∧ call ≠ .close) := by
  unfold IsOpenUntold IsRefusedBy
  by_cases hcall : call = .close
  · subst hcall
    simp [after_close.1, SourceCall.needsConnection]
  cases hneeds : call.needsConnection s with
  | false =>
      rw [after_of_not_needsConnection hneeds hcall]
      simp [hcall]
  | true =>
      have honward := onward_after hthreads hneeds
      rw [honward.isConnected_eq, honward.isTold_eq]
      cases hopen : s.isConnected with
      | true =>
          rw [connect_of_open hopen]
          simp [hopen, hcall]
      | false =>
          obtain ⟨outcome, next, hrun, hnext, -, -, htold⟩ :=
            connect_of_closed hthreads hopen
          rw [hrun]
          cases outcome <;> simp_all

end Calls

section Runs

variable {s : LogSource} {calls : List SourceCall}

theorem afterAll_concat (s : LogSource) (earlier : List SourceCall) (call : SourceCall) :
    s.afterAll (earlier ++ [call]) = (s.afterAll earlier).after call :=
  List.foldl_append

theorem threads_afterAll (hthreads : s.threads ≠ .null) :
    (s.afterAll calls).threads = s.threads := by
  induction calls using List.reverseRecOn with
  | nil => rfl
  | append_singleton earlier call ih =>
      rw [afterAll_concat, threads_after (ih ▸ hthreads), ih]

theorem isOpenUntold_afterAll_iff (hthreads : s.threads ≠ .null)
    (hclosed : s.isConnected = false) :
    (s.afterAll calls).IsOpenUntold ↔
      ∃ before opening later, calls = before ++ opening :: later ∧
        (s.afterAll before).IsRefusedBy opening ∧ SourceCall.close ∉ later := by
  -- From the end: a call either opens the connection or takes it over.
  induction calls using List.reverseRecOn with
  | nil => simp [afterAll, IsOpenUntold, hclosed]
  | append_singleton earlier call ih =>
      have hgiven : (s.afterAll earlier).threads ≠ .null := by
        rwa [threads_afterAll hthreads]
      rw [afterAll_concat, isOpenUntold_after_iff hgiven, ih]
      constructor
      · rintro (hrefused | ⟨⟨before, opening, later, rfl, hrefused, hopen⟩, hcall⟩)
        · exact ⟨earlier, call, [], rfl, hrefused, List.not_mem_nil⟩
        · refine ⟨before, opening, later ++ [call], by simp, hrefused, ?_⟩
          rw [List.mem_append, List.mem_singleton]
          rintro (hmem | rfl)
          · exact hopen hmem
          · exact hcall rfl
      · rintro ⟨before, opening, later, hcalls, hrefused, hopen⟩
        rcases List.eq_nil_or_concat later with rfl | ⟨others, last, rfl⟩
        · obtain ⟨rfl, hlast⟩ := List.append_inj' hcalls rfl
          obtain rfl : call = opening := by simpa using hlast
          exact .inl hrefused
        · rw [List.concat_eq_append, ← List.cons_append, ← List.append_assoc] at hcalls
          obtain ⟨rfl, hlast⟩ := List.append_inj' hcalls rfl
          obtain rfl : call = last := by simpa using hlast
          rw [List.concat_eq_append, List.mem_append, List.mem_singleton, not_or] at hopen
          refine .inr ⟨⟨before, opening, others, rfl, hrefused, hopen.1⟩, ?_⟩
          exact fun hcall => hopen.2 hcall.symm

end Runs

theorem handsOutUntold_iff {s : LogSource} {call : SourceCall}
    (hthreads : s.threads ≠ .null) :
    s.HandsOutUntold call ↔ call.needsConnection s = true ∧ s.IsOpenUntold := by
  unfold HandsOutUntold IsOpenUntold
  refine and_congr_right fun _ => ?_
  cases hopen : s.isConnected with
  | true =>
      rw [connect_of_open hopen]
      simp
  | false =>
      obtain ⟨outcome, next, hrun, -, -, -, htold⟩ := connect_of_closed hthreads hopen
      rw [hrun]
      simp_all

/-- A connection that has not been told is handed out just in case the call that has
opened it was refused, and no call since has closed it. -/
theorem untold_connection_iff (source : LogSource) (hthreads : source.threads ≠ .null)
    (hclosed : source.isConnected = false) (calls : List SourceCall) (call : SourceCall) :
    (source.afterAll calls).HandsOutUntold call ↔
      call.needsConnection (source.afterAll calls) = true ∧
      ∃ before opening later, calls = before ++ opening :: later ∧
        (source.afterAll before).IsRefusedBy opening ∧ SourceCall.close ∉ later := by
  have hgiven : (source.afterAll calls).threads ≠ .null := by
    rwa [threads_afterAll hthreads]
  rw [handsOutUntold_iff hgiven, isOpenUntold_afterAll_iff hthreads hclosed]

/-- A source for four threads, whose database is busy when it is told so. -/
def busyOnce : LogSource :=
  { threads := .int 4
    db := { script := [
      { parts := ["SET threads"], uses := some 1,
        answer := { fault := some (.database "IOException" "busy") } }] } }

theorem untold_connection_busy_iff :
    busyOnce.threads ≠ .null ∧ busyOnce.isConnected = false ∧
      ((busyOnce.afterAll [.connect]).HandsOutUntold (.rowCount .null) ↔
        SourceCall.needsConnection (busyOnce.afterAll [.connect]) (.rowCount .null) = true ∧
        ∃ before opening later, [SourceCall.connect] = before ++ opening :: later ∧
          (busyOnce.afterAll before).IsRefusedBy opening ∧ SourceCall.close ∉ later) :=
  ⟨by decide, rfl, untold_connection_iff busyOnce (by decide) rfl [.connect] (.rowCount .null)⟩

/-- The first call ends in a fault; the second is handed the connection, which has never
accepted the number of threads. -/
theorem untold_connection_reused :
    (connect busyOnce).1 = .error (.database "IOException" "busy") ∧
    (busyOnce.afterAll [.connect]).HandsOutUntold .connect ∧
    DatabaseEvent.statement "SET threads TO 4" true ∉
      (busyOnce.afterAll [.connect, .connect]).db.events := by
  refine ⟨?_, ⟨rfl, ?_, ?_⟩, ?_⟩
  · decide +kernel
  · decide +kernel
  · decide +kernel
  · decide +kernel

end LogSource

end RequestBreakdown
