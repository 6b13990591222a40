import Mathlib.Data.List.Basic
import RequestBreakdown.Backend.Tiers
import RequestBreakdown.Proofs.Backend.Statements

/-!
# The tables behind the sample tiers

Which tables there are follows from the statements that the database accepted:
one creates a table, one drops it, and a statement that was refused changes
nothing.  A call that makes all tables and returns has made each of them when
it marks the tiers.  A call that ends in a fault leaves the mark as it was, whatever
it has dropped before: that is how marked tiers can lack a table.
-/

namespace RequestBreakdown

/-! ## Tables -/

namespace DatabaseEvent

def dropsTable (table sql : String) : Bool := sql == "DROP TABLE IF EXISTS " ++ table

/-- Whether the statement, blanks in front of it apart, creates the table from a
query. -/
def createsTable (table sql : String) : Bool :=
  ("CREATE TABLE " ++ table ++ " AS").toList.isPrefixOf
    (sql.toList.dropWhile Char.isWhitespace)

/-- Whether there is a table after the event, if there was or was not before. -/
def track (table : String) (there : Bool) : DatabaseEvent → Bool
  | .statement sql true =>
    if dropsTable table sql then false
    else if createsTable table sql then true
    else there
  | _ => there

end DatabaseEvent

/-- Whether there is a table, by all that the database has accepted; what it held
at first is given. -/
def Database.hasTable (given : String → Bool) (db : Database) (table : String) :
    Bool :=
  db.events.foldl (DatabaseEvent.track table) (given table)

namespace SampleTiers

/-- A name that cannot be read in front of another in a statement. -/
def Apart (table other : String) : Prop :=
  ∀ rest : List Char,
    ¬ (table.toList ++ " AS".toList) <+: (other.toList ++ " AS".toList ++ rest)

/-- What can be noted while a table is made or dropped. -/
def Concerns (baseTable table : String) (keepOneIn : Nat) (e : DatabaseEvent) :
    Prop :=
  ∃ accepted, e = .statement (dropStatement table) accepted ∨
    e = .statement (createStatement baseTable table keepOneIn) accepted

/-! ## What the statements do -/

theorem toList_createStatement (baseTable table : String) (keepOneIn : Nat) :
    ∃ rest : List Char, (createStatement baseTable table keepOneIn).toList =
      "\n                ".toList ++
        ("CREATE TABLE ".toList ++ (table.toList ++ (" AS".toList ++ rest))) := by
  refine ⟨"\n                ".toList ++ ("SELECT * FROM ".toList ++
    (baseTable.toList ++ ("\n                ".toList ++
      ("WHERE hash(rowid) % ".toList ++ ((toString keepOneIn).toList ++
        (" = 0".toList ++ "\n                ".toList)))))), ?_⟩
  unfold createStatement
  simp only [String.toList_append, List.append_assoc]

theorem dropWhile_createStatement (baseTable table : String) (keepOneIn : Nat) :
    ∃ rest : List Char,
      (createStatement baseTable table keepOneIn).toList.dropWhile
          Char.isWhitespace =
        "CREATE TABLE ".toList ++ (table.toList ++ (" AS".toList ++ rest)) := by
  obtain ⟨rest, hrest⟩ := toList_createStatement baseTable table keepOneIn
  have hblank : "\n                ".toList.all Char.isWhitespace = true := by decide
  refine ⟨rest, ?_⟩
  rw [hrest, List.dropWhile_append_of_pos (List.all_eq_true.mp hblank)]
  exact List.dropWhile_cons_of_neg (by decide)

theorem dropWhile_dropStatement (table : String) :
    (dropStatement table).toList.dropWhile Char.isWhitespace =
      "DROP TABLE IF EXISTS ".toList ++ table.toList := by
  have hword : "DROP TABLE IF EXISTS ".toList =
      'D' :: "ROP TABLE IF EXISTS ".toList := by decide
  unfold dropStatement
  rw [String.toList_append, hword, List.cons_append]
  exact List.dropWhile_cons_of_neg (by decide)

section Tracking

variable {baseTable table other : String} {keepOneIn : Nat} {there : Bool}

theorem apart_ne (hapart : Apart table other) : table ≠ other := by
  rintro rfl
  exact hapart [] (by simp)

theorem dropsTable_dropStatement :
    DatabaseEvent.dropsTable table (dropStatement other) = decide (other = table) := by
  unfold DatabaseEvent.dropsTable dropStatement
  rw [Bool.eq_iff_iff]
  simp [← String.toList_inj]

theorem dropsTable_createStatement :
    DatabaseEvent.dropsTable table (createStatement baseTable other keepOneIn) =
      false := by
  obtain ⟨rest, hrest⟩ := toList_createStatement baseTable other keepOneIn
  unfold DatabaseEvent.dropsTable
  rw [beq_eq_false_iff_ne]
  intro heq
  have hhead : (createStatement baseTable other keepOneIn).toList.head? =
      ("DROP TABLE IF EXISTS " ++ table).toList.head? := by rw [heq]
  rw [hrest, String.toList_append] at hhead
  exact absurd hhead (by simp)

theorem createsTable_dropStatement :
    DatabaseEvent.createsTable table (dropStatement other) = false := by
  unfold DatabaseEvent.createsTable
  rw [dropWhile_dropStatement, Bool.eq_false_iff, ne_eq,
    List.isPrefixOf_iff_prefix]
  simp

theorem createsTable_createStatement_self :
    DatabaseEvent.createsTable table (createStatement baseTable table keepOneIn) =
      true := by
  obtain ⟨rest, hrest⟩ := dropWhile_createStatement baseTable table keepOneIn
  unfold DatabaseEvent.createsTable
  rw [hrest, List.isPrefixOf_iff_prefix]
  exact ⟨rest, by simp⟩

theorem createsTable_createStatement (hapart : Apart table other) :
    DatabaseEvent.createsTable table (createStatement baseTable other keepOneIn) =
      false := by
  obtain ⟨rest, hrest⟩ := dropWhile_createStatement baseTable other keepOneIn
  unfold DatabaseEvent.createsTable
  -- Only the names can differ in the fronts of two such statements.
  rw [hrest, Bool.eq_false_iff]
  intro hprefix
  rw [List.isPrefixOf_iff_prefix] at hprefix
  simp only [String.toList_append, List.append_assoc,
    List.prefix_append_right_inj] at hprefix
  exact hapart rest (by simpa using hprefix)

theorem track_dropStatement_self (accepted : Bool) :
    (DatabaseEvent.statement (dropStatement table) accepted).track table there =
      (there && !accepted) := by
  cases accepted <;>
    simp [DatabaseEvent.track, dropsTable_dropStatement]

theorem track_createStatement_self (accepted : Bool) :
    (DatabaseEvent.statement (createStatement baseTable table keepOneIn)
        accepted).track table there = (there || accepted) := by
  cases accepted <;>
    simp [DatabaseEvent.track, dropsTable_createStatement,
      createsTable_createStatement_self]

/-- What concerns one table leaves another alone. -/
theorem track_of_apart (hapart : Apart table other) {e : DatabaseEvent}
    (hconcerns : Concerns baseTable other keepOneIn e) :
    e.track table there = there := by
  have hne : other ≠ table := (apart_ne hapart).symm
  obtain ⟨accepted, rfl | rfl⟩ := hconcerns
  · cases accepted <;>
      simp [DatabaseEvent.track, dropsTable_dropStatement,
        createsTable_dropStatement, hne]
  · cases accepted <;>
      simp [DatabaseEvent.track, dropsTable_createStatement,
        createsTable_createStatement hapart]

theorem foldl_track_of_apart {tables : List (String × Nat)}
    (hapart : ∀ entry ∈ tables, Apart table entry.1) {events : List DatabaseEvent}
    (hothers : ∀ e ∈ events, ∃ entry ∈ tables, Concerns baseTable entry.1 entry.2 e) :
    events.foldl (DatabaseEvent.track table) there = there := by
  induction events with
  | nil => rfl
  | cons e rest ih =>
      obtain ⟨entry, hentry, hconcerns⟩ := hothers e List.mem_cons_self
      rw [List.foldl_cons, track_of_apart (hapart entry hentry) hconcerns]
      exact ih fun later hlater => hothers later (List.mem_cons_of_mem _ hlater)

end Tracking

/-! ## What the calls do -/

section Calls

variable {t : SampleTiers} {db next : Database} {table : String}
  {keepOneIn : Nat}

/-- A table is built by dropping it and creating it anew, or one of the two is
refused. -/
theorem build_cases (t : SampleTiers) (table : String) (keepOneIn : Nat)
    (db : Database) :
    let create := createStatement t.baseTable.display table keepOneIn
    (∃ elapsed next, t.build table keepOneIn db = (.ok elapsed, next) ∧
      next.events = db.events ++
        [.statement (dropStatement table) true, .statement create true]) ∨
    ∃ fault next, t.build table keepOneIn db = (.error fault, next) ∧
      (next.events = db.events ++ [.statement (dropStatement table) false] ∨
        next.events = db.events ++
          [.statement (dropStatement table) true, .statement create false]) := by
  intro create
  unfold build
  rw [Stateful.run_bind, Stateful.run_get]
  dsimp only
  rw [Stateful.run_bind, Stateful.run_discard]
  rcases DatabaseM.execute_cases (dropStatement table) db with
    ⟨answer, dropped, hdrop, hdropped⟩ | ⟨fault, dropped, hdrop, hdropped⟩
  · rw [hdrop]
    dsimp only
    rw [Stateful.run_bind, Stateful.run_discard]
    rcases DatabaseM.execute_cases create dropped with
      ⟨answer, created, hcreate, hcreated⟩ | ⟨fault, created, hcreate, hcreated⟩
    · rw [hcreate]
      refine .inl ⟨_, created, rfl, ?_⟩
      rw [hcreated, hdropped, List.append_assoc]
      rfl
    · rw [hcreate]
      refine .inr ⟨fault, created, rfl, .inr ?_⟩
      rw [hcreated, hdropped, List.append_assoc]
      rfl
  · rw [hdrop]
    exact .inr ⟨fault, dropped, rfl, .inl hdropped⟩

theorem attempt_run (t : SampleTiers) (table : String) (keepOneIn : Nat)
    (db : Database) :
    t.attempt table keepOneIn db = match t.build table keepOneIn db with
      | (.ok elapsed, next) => (.ok (.real elapsed), next)
      | (.error (.database _ _), next) => (.ok (.int (-1)), next)
      | (.error fault, next) => (.error fault, next) := by
  unfold attempt
  rw [Stateful.run_bind, Stateful.run_tryCatch, Stateful.run_bind]
  rcases t.build table keepOneIn db with ⟨fault | elapsed, next⟩
  · cases fault <;> rfl
  · rfl

/-- An attempt at a table concerns that table only; one that took some time has made
it. -/
theorem attempt_spec (t : SampleTiers) (table : String) (keepOneIn : Nat)
    (db : Database) :
    ∃ outcome next more, t.attempt table keepOneIn db = (outcome, next) ∧
      next.events = db.events ++ more ∧
      (∀ e ∈ more, Concerns t.baseTable.display table keepOneIn e) ∧
      ∀ n, outcome = .ok n → (Number.int 0).le n = true →
        ∀ there, more.foldl (DatabaseEvent.track table) there = true := by
  rw [attempt_run]
  rcases build_cases t table keepOneIn db with
    ⟨elapsed, next, hbuild, hevents⟩ | ⟨fault, next, hbuild, hevents⟩
  · rw [hbuild]
    refine ⟨_, next, _, rfl, hevents, ?_, ?_⟩
    · simp [Concerns]
    · intro n _ _ there
      simp [track_dropStatement_self, track_createStatement_self]
  · rw [hbuild]
    have hstatements : ∃ more, next.events = db.events ++ more ∧
        ∀ e ∈ more, Concerns t.baseTable.display table keepOneIn e := by
      rcases hevents with hevents | hevents
      · exact ⟨_, hevents, by simp [Concerns]⟩
      · exact ⟨_, hevents, by simp [Concerns]⟩
    obtain ⟨more, hmore, hconcern⟩ := hstatements
    cases fault with
    | database kind text =>
        refine ⟨_, next, more, rfl, hmore, hconcern, fun n hn hle => ?_⟩
        rw [← Except.ok.inj hn] at hle
        exact absurd hle (by decide)
    | _ => exact ⟨_, next, more, rfl, hmore, hconcern, fun _ hn => nomatch hn⟩

/-- Tables whose names are apart from each other. -/
def AllApart (tables : List (String × Nat)) : Prop :=
  tables.Pairwise fun a b => Apart a.1 b.1 ∧ Apart b.1 a.1

/-- Attempts at some tables concern these; when each took some time, they are all
there. -/
theorem attempts_spec (t : SampleTiers) {tables : List (String × Nat)}
    (hapart : AllApart tables) (db : Database) :
    ∃ outcome next more,
      (tables.mapM (fun entry => do
        return (entry.1, ← t.attempt entry.1 entry.2) :
          _ → DatabaseM (String × Number))) db = (outcome, next) ∧
      next.events = db.events ++ more ∧
      (∀ e ∈ more, ∃ entry ∈ tables,
        Concerns t.baseTable.display entry.1 entry.2 e) ∧
      ∀ timings, outcome = .ok timings →
        timings.map (·.1) = tables.map (·.1) ∧
        ((∀ timing ∈ timings, (Number.int 0).le timing.2 = true) →
          ∀ entry ∈ tables, ∀ there,
            more.foldl (DatabaseEvent.track entry.1) there = true) := by
  induction tables generalizing db with
  | nil =>
      refine ⟨_, db, [], rfl, by simp, by simp, ?_⟩
      rintro timings hnone
      obtain rfl : [] = timings := Except.ok.inj hnone
      exact ⟨rfl, by simp⟩
  | cons entry rest ih =>
      obtain ⟨hfirst, hrest⟩ := List.pairwise_cons.mp hapart
      rw [List.mapM_cons, Stateful.run_bind, Stateful.run_bind]
      obtain ⟨outcome, made, more, hattempt, hmade, hconcern, hthere⟩ :=
        attempt_spec t entry.1 entry.2 db
      rw [hattempt]
      cases outcome with
      | error fault =>
          refine ⟨_, made, more, rfl, hmade, ?_, fun _ hok => nomatch hok⟩
          exact fun e he => ⟨entry, List.mem_cons_self, hconcern e he⟩
      | ok n =>
          obtain ⟨others, last, later, hothers, hlast, hlater, hthose⟩ := ih hrest made
          dsimp only
          rw [Stateful.run_pure]
          dsimp only
          rw [Stateful.run_bind, hothers]
          have hevents : last.events = db.events ++ (more ++ later) := by
            rw [hlast, hmade, List.append_assoc]
          have hconcerns : ∀ e ∈ more ++ later, ∃ known ∈ entry :: rest,
              Concerns t.baseTable.display known.1 known.2 e := by
            intro e he
            rcases List.mem_append.mp he with he | he
            · exact ⟨entry, List.mem_cons_self, hconcern e he⟩
            · obtain ⟨known, hknown, hknows⟩ := hlater e he
              exact ⟨known, List.mem_cons_of_mem _ hknown, hknows⟩
          cases others with
          | error fault =>
              exact ⟨_, last, _, rfl, hevents, hconcerns, fun _ hok => nomatch hok⟩
          | ok timings =>
              refine ⟨_, last, _, rfl, hevents, hconcerns, ?_⟩
              rintro all hall
              obtain rfl : (entry.1, n) :: timings = all := Except.ok.inj hall
              obtain ⟨hnames, hbuilt⟩ := hthose timings rfl
              refine ⟨by rw [List.map_cons, List.map_cons, hnames], ?_⟩
              intro htimes known hknown there
              rw [List.foldl_append]
              -- The first table is there before the others are attempted, and these
              -- are apart from it.
              rcases List.mem_cons.mp hknown with rfl | hmem
              · rw [hthere n rfl (htimes _ List.mem_cons_self)]
                exact foldl_track_of_apart (fun other hother => (hfirst other hother).1)
                  hlater
              · refine hbuilt (fun timing htiming => ?_) known hmem _
                exact htimes timing (List.mem_cons_of_mem _ htiming)

theorem multiplier_tenth : SampleRate.multiplier (.real SampleRate.tenth) = .ok 10 := by
  decide +kernel

theorem multiplier_hundredth :
    SampleRate.multiplier (.real SampleRate.hundredth) = .ok 100 := by
  decide +kernel

theorem tables_eq (name : String) :
    SamplingPlanner.tierTables name =
      [(name ++ "_sampled_10", 10), (name ++ "_sampled_1", 100)] := by
  have hfull : SampleRate.full.lt SampleRate.full = false := by decide +kernel
  have htenth : SampleRate.tenth.lt SampleRate.full = true := by decide +kernel
  have hhundredth : SampleRate.hundredth.lt SampleRate.full = true := by
    decide +kernel
  simp [SamplingPlanner.tierTables, SampleRate.tableSuffixes, hfull, htenth,
    hhundredth, multiplier_tenth, multiplier_hundredth]

theorem allApart_tables (name : String) :
    AllApart (SamplingPlanner.tierTables name) := by
  rw [tables_eq]
  simp [AllApart, Apart, List.prefix_append_right_inj]

theorem knownTables_run (name : String) (marked : Bool) (db : Database) :
    (⟨.text name, marked⟩ : SampleTiers).knownTables db =
      (.ok (SamplingPlanner.tierTables name), db) :=
  Stateful.run_ofExcept _ db

/-- A call that makes all tables marks the tiers just in case none took a negative
time; then all are there. -/
theorem materializeAll_spec (name : String) (marked : Bool)
    (given : String → Bool) (db : Database) {t : SampleTiers}
    {timings : List (String × Number)} {next : Database}
    (hreturned : (⟨.text name, marked⟩ : SampleTiers).materializeAll db =
      (.ok (t, timings), next)) :
    t.baseTable = .text name ∧
    (t.isMaterialized = true ↔
      ∀ timing ∈ timings, (Number.int 0).le timing.2 = true) ∧
    (t.isMaterialized = true → ∀ entry ∈ SamplingPlanner.tierTables name,
      next.hasTable given entry.1 = true) := by
  obtain ⟨tables, start, htables, hattempts⟩ := Stateful.run_bind_ok hreturned
  obtain ⟨times, last, htimes, hlast⟩ := Stateful.run_bind_ok hattempts
  rw [knownTables_run] at htables
  obtain ⟨hknown, rfl⟩ := Prod.mk.inj htables
  obtain rfl := Except.ok.inj hknown
  obtain ⟨outcome, made, more, hrun, hevents, -, hmade⟩ :=
    attempts_spec ⟨.text name, marked⟩ (allApart_tables name) db
  obtain ⟨rfl, rfl⟩ := Prod.mk.inj (hrun.symm.trans htimes)
  rw [Stateful.run_pure] at hlast
  obtain ⟨hok, rfl⟩ := Prod.mk.inj hlast
  obtain ⟨rfl, rfl⟩ := Prod.mk.inj (Except.ok.inj hok)
  obtain ⟨hnames, hthere⟩ := hmade _ rfl
  have hsome : times.isEmpty = false := by
    rw [tables_eq] at hnames
    cases times with
    | nil => simp at hnames
    | cons => rfl
  have hmarks : (!times.isEmpty && times.all fun timing =>
      (Number.int 0).le timing.2) = true ↔
      ∀ timing ∈ times, (Number.int 0).le timing.2 = true := by
    simp [hsome]
  refine ⟨rfl, hmarks, fun hmarked entry hentry => ?_⟩
  rw [Database.hasTable, hevents, List.foldl_append]
  exact hthere (hmarks.mp hmarked) entry hentry _

theorem dropAll_spec {t marked : SampleTiers} {db next : Database}
    (hreturned : t.dropAll db = (.ok marked, next)) :
    marked = { t with isMaterialized := false } := by
  obtain ⟨tables, start, -, hdrops⟩ := Stateful.run_bind_ok hreturned
  obtain ⟨done, last, -, hlast⟩ := Stateful.run_bind_ok hdrops
  exact (Except.ok.inj (Prod.mk.inj hlast).1).symm

end Calls

end SampleTiers

end RequestBreakdown
