import Mathlib.Data.List.Induction
import RequestBreakdown.Proofs.Backend.TierTables

/-!
# The mark of the sample tiers

A session is any number of calls, each of which makes all tables or drops all.
The tiers are marked when the last call that returned has made every table.  All
calls after it ended in a fault: these leave the mark, but not always the tables.
-/

namespace RequestBreakdown

inductive TierCall where
  | materializeAll
  | dropAll
  deriving DecidableEq, Repr

def TierCall.run : TierCall → SampleTiers → DatabaseM SampleTiers
  | .materializeAll, tiers => do return (← tiers.materializeAll).1
  | .dropAll, tiers => tiers.dropAll

structure TierSession where
  tiers : SampleTiers
  db : Database
  deriving DecidableEq, Repr

namespace TierSession

def new (name : String) (db : Database) : TierSession := ⟨⟨.text name, false⟩, db⟩

/-- A call that ends in a fault leaves the tiers as they were. -/
def after (s : TierSession) (call : TierCall) : TierSession :=
  match call.run s.tiers s.db with
  | (.ok tiers, db) => ⟨tiers, db⟩
  | (.error _, db) => ⟨s.tiers, db⟩

def run (s : TierSession) (calls : List TierCall) : TierSession :=
  calls.foldl after s

def Faults (s : TierSession) (call : TierCall) : Prop :=
  ∃ fault db, call.run s.tiers s.db = (.error fault, db)

def AllFault (s : TierSession) : List TierCall → Prop
  | [] => True
  | call :: rest => s.Faults call ∧ (s.after call).AllFault rest

/-- All tables are made, and none in less than no time. -/
def MakesAll (s : TierSession) : Prop :=
  ∃ tiers timings db, s.tiers.materializeAll s.db = (.ok (tiers, timings), db) ∧
    ∀ timing ∈ timings, (Number.int 0).le timing.2 = true

/-! ## One call -/

section OneCall

variable {name : String} {s : TierSession} {call : TierCall}

theorem returns_of_not_faults (hnot : ¬ s.Faults call) :
    ∃ tiers db, call.run s.tiers s.db = (.ok tiers, db) ∧
      s.after call = ⟨tiers, db⟩ := by
  rcases hrun : call.run s.tiers s.db with ⟨fault | tiers, db⟩
  · exact absurd ⟨fault, db, hrun⟩ hnot
  · exact ⟨tiers, db, rfl, by simp only [after, hrun]⟩

theorem after_of_faults (hfaults : s.Faults call) :
    (s.after call).tiers = s.tiers := by
  obtain ⟨fault, db, hrun⟩ := hfaults
  simp only [after, hrun]

theorem materializeAll_returned {tiers : SampleTiers} {db : Database}
    (hrun : TierCall.materializeAll.run s.tiers s.db = (.ok tiers, db)) :
    ∃ timings, s.tiers.materializeAll s.db = (.ok (tiers, timings), db) := by
  obtain ⟨⟨made, timings⟩, middle, hmade, hpure⟩ := Stateful.run_bind_ok hrun
  obtain ⟨hok, rfl⟩ := Prod.mk.inj hpure
  obtain rfl := Except.ok.inj hok
  exact ⟨timings, hmade⟩

theorem after_of_makesAll (hmakes : s.MakesAll) :
    ∃ timings, s.tiers.materializeAll s.db =
        (.ok ((s.after .materializeAll).tiers, timings),
          (s.after .materializeAll).db) ∧
      ∀ timing ∈ timings, (Number.int 0).le timing.2 = true := by
  obtain ⟨tiers, timings, db, hmade, htimes⟩ := hmakes
  have hrun : TierCall.materializeAll.run s.tiers s.db = (.ok tiers, db) := by
    change (s.tiers.materializeAll >>= fun made => pure made.1) s.db = _
    rw [Stateful.run_bind, hmade]
    rfl
  have hafter : s.after .materializeAll = ⟨tiers, db⟩ := by
    simp only [after, hrun]
  rw [hafter]
  exact ⟨timings, hmade, htimes⟩

/-- What a call leaves: the name of the table, and a mark only where all tables were
made or where there was one and the call ended in a fault. -/
theorem after_spec (hname : s.tiers.baseTable = .text name) :
    (s.after call).tiers.baseTable = .text name ∧
    ((s.after call).tiers.isMaterialized = true →
      (call = .materializeAll ∧ s.MakesAll) ∨
        (s.Faults call ∧ s.tiers.isMaterialized = true)) := by
  by_cases hfaults : s.Faults call
  · rw [after_of_faults hfaults]
    exact ⟨hname, fun hmarked => .inr ⟨hfaults, hmarked⟩⟩
  obtain ⟨tiers, db, hrun, hafter⟩ := returns_of_not_faults hfaults
  rw [hafter]
  cases call with
  | dropAll =>
      obtain rfl := SampleTiers.dropAll_spec hrun
      exact ⟨hname, fun hmarked => absurd hmarked (by simp)⟩
  | materializeAll =>
      obtain ⟨timings, hmade⟩ := materializeAll_returned hrun
      have hbefore : s.tiers = ⟨.text name, s.tiers.isMaterialized⟩ := by
        rw [← hname]
      obtain ⟨hbase, hmarks, -⟩ := SampleTiers.materializeAll_spec name
        s.tiers.isMaterialized (fun _ => false) s.db (hbefore ▸ hmade)
      refine ⟨hbase, fun hmarked => .inl ⟨rfl, ?_⟩⟩
      exact ⟨tiers, timings, db, hmade, hmarks.mp hmarked⟩

/-- Where all tables were made they are there, and the tiers are marked. -/
theorem after_materializeAll (given : String → Bool)
    (hname : s.tiers.baseTable = .text name) (hmakes : s.MakesAll) :
    (s.after .materializeAll).tiers.isMaterialized = true ∧
    ∀ entry ∈ SamplingPlanner.tierTables name,
      (s.after .materializeAll).db.hasTable given entry.1 = true := by
  obtain ⟨timings, hmade, htimes⟩ := after_of_makesAll hmakes
  have hbefore : s.tiers = ⟨.text name, s.tiers.isMaterialized⟩ := by
    rw [← hname]
  obtain ⟨-, hmarks, hthere⟩ := SampleTiers.materializeAll_spec name
    s.tiers.isMaterialized given s.db (hbefore ▸ hmade)
  exact ⟨hmarks.mpr htimes, hthere (hmarks.mpr htimes)⟩

end OneCall

/-! ## Any number of calls -/

section Calls

variable {name : String} {s : TierSession} {calls : List TierCall}

theorem run_append (s : TierSession) (earlier later : List TierCall) :
    s.run (earlier ++ later) = (s.run earlier).run later :=
  List.foldl_append

theorem allFault_append (s : TierSession) (earlier later : List TierCall) :
    s.AllFault (earlier ++ later) ↔
      s.AllFault earlier ∧ (s.run earlier).AllFault later := by
  induction earlier generalizing s with
  | nil => simp [AllFault, run]
  | cons call rest ih =>
      change (s.Faults call ∧ (s.after call).AllFault (rest ++ later)) ↔
        (s.Faults call ∧ (s.after call).AllFault rest) ∧
          ((s.after call).run rest).AllFault later
      rw [ih, and_assoc]

theorem run_of_allFault (hfaults : s.AllFault calls) :
    (s.run calls).tiers = s.tiers := by
  induction calls generalizing s with
  | nil => rfl
  | cons call rest ih =>
      obtain ⟨hfirst, hrest⟩ := hfaults
      calc ((s.after call).run rest).tiers
          = (s.after call).tiers := ih hrest
        _ = s.tiers := after_of_faults hfirst

theorem baseTable_run (hname : s.tiers.baseTable = .text name) :
    (s.run calls).tiers.baseTable = .text name := by
  induction calls generalizing s with
  | nil => exact hname
  | cons call rest ih => exact ih (after_spec hname).1

theorem makesAll_of_marked (hname : s.tiers.baseTable = .text name)
    (hunmarked : s.tiers.isMaterialized = false)
    (hmarked : (s.run calls).tiers.isMaterialized = true) :
    ∃ before faulted, calls = before ++ .materializeAll :: faulted ∧
      (s.run before).MakesAll ∧
      ((s.run before).after .materializeAll).AllFault faulted := by
  -- From the end: a fault leaves the mark to the calls before it, and a call that
  -- returns decides it.
  induction calls using List.reverseRecOn with
  | nil => exact absurd (hunmarked.symm.trans hmarked) (by simp)
  | append_singleton earlier call ih =>
      rw [run_append] at hmarked
      rcases (after_spec (baseTable_run hname)).2 hmarked with
        ⟨rfl, hmakes⟩ | ⟨hfaults, hearlier⟩
      · exact ⟨earlier, [], rfl, hmakes, trivial⟩
      · obtain ⟨before, faulted, rfl, hmakes, hall⟩ := ih hearlier
        refine ⟨before, faulted ++ [call], by simp, hmakes, ?_⟩
        rw [run_append] at hfaults
        exact (allFault_append _ _ _).mpr ⟨hall, hfaults, trivial⟩

end Calls

/-- The tiers are marked without one of their tables just in case a call has made them
all, every call since has ended in a fault, and one of these took a table with it. -/
theorem marked_without_table_iff (name : String) (given : String → Bool)
    (db : Database) (calls : List TierCall) :
    (((new name db).run calls).tiers.isMaterialized = true ∧
      ∃ entry ∈ SamplingPlanner.tierTables name,
        ((new name db).run calls).db.hasTable given entry.1 = false) ↔
    ∃ before faulted, calls = before ++ .materializeAll :: faulted ∧
      ((new name db).run before).MakesAll ∧
      (((new name db).run before).after .materializeAll).AllFault faulted ∧
      ∃ entry ∈ SamplingPlanner.tierTables name,
        (((new name db).run before).after .materializeAll).db.hasTable given
          entry.1 = true ∧
        ((((new name db).run before).after .materializeAll).run
          faulted).db.hasTable given entry.1 = false := by
  have hname (before : List TierCall) :
      ((new name db).run before).tiers.baseTable = .text name :=
    baseTable_run rfl
  have hrun (before faulted : List TierCall) :
      (new name db).run (before ++ .materializeAll :: faulted) =
        (((new name db).run before).after .materializeAll).run faulted := by
    rw [run_append]
    rfl
  constructor
  · rintro ⟨hmarked, entry, hentry, hmissing⟩
    obtain ⟨before, faulted, rfl, hmakes, hfaults⟩ :=
      makesAll_of_marked rfl rfl hmarked
    have hthere := (after_materializeAll given (hname before) hmakes).2 entry hentry
    rw [hrun] at hmissing
    exact ⟨before, faulted, rfl, hmakes, hfaults, entry, hentry, hthere, hmissing⟩
  · rintro ⟨before, faulted, rfl, hmakes, hfaults, entry, hentry, -, hmissing⟩
    rw [hrun, run_of_allFault hfaults]
    have hmarked := (after_materializeAll given (hname before) hmakes).1
    exact ⟨hmarked, entry, hentry, hmissing⟩

/-- A database that is locked once both tables have been made. -/
def lockedAfterTiers : Database :=
  { script := [
      { parts := ["DROP"], uses := some 3, answer := {} },
      { parts := ["DROP"],
        answer := { fault := some (.database "IOException" "locked") } }] }

/-- One table is dropped, the other is refused, and the tiers stay marked. -/
theorem marked_after_refused_drop :
    ((new "requests" lockedAfterTiers).run
        [.materializeAll, .dropAll]).tiers.isMaterialized = true ∧
    ("requests_sampled_10", 10) ∈ SamplingPlanner.tierTables "requests" ∧
    ((new "requests" lockedAfterTiers).run
        [.materializeAll, .dropAll]).db.hasTable (fun _ => false)
      "requests_sampled_10" = false := by
  decide +kernel

end TierSession

end RequestBreakdown
