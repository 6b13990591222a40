import RequestBreakdown.Backend.Database
import RequestBreakdown.Proofs.Backend.Stateful

/-!
# Statements on a database

Every statement is noted, with whether it was accepted, and nothing that was noted
is taken back.
-/

namespace RequestBreakdown

namespace Database

@[simp] theorem events_note (db : Database) (event : DatabaseEvent) :
    (db.note event).events = db.events ++ [event] := rfl

@[simp] theorem events_answer (db : Database) (sql : String) :
    (db.answer sql).1.events = db.events := by
  unfold answer
  split
  · split <;> rfl
  · rfl

@[simp] theorem cursors_note (db : Database) (event : DatabaseEvent) :
    (db.note event).cursors = db.cursors := rfl

@[simp] theorem cursors_answer (db : Database) (sql : String) :
    (db.answer sql).1.cursors = db.cursors := by
  unfold answer
  split
  · split <;> rfl
  · rfl

end Database

namespace DatabaseM

theorem execute_run (sql : String) (db : Database) :
    execute sql db = (match (db.answer sql).2.fault with
        | some fault => .error fault
        | none => .ok (db.answer sql).2,
      (db.answer sql).1.note (.statement sql (db.answer sql).2.fault.isNone)) := by
  unfold execute
  rw [Stateful.run_bind, Stateful.run_get]
  dsimp only
  cases hfault : (db.answer sql).2.fault with
  | none =>
      rw [Stateful.run_bind]
      rfl
  | some fault =>
      rw [Stateful.run_bind]
      rfl

/-- A statement is noted with whether it was accepted, and nothing else is. -/
theorem execute_cases (sql : String) (db : Database) :
    (∃ answer next, execute sql db = (.ok answer, next) ∧
      next.events = db.events ++ [.statement sql true]) ∨
    ∃ fault next, execute sql db = (.error fault, next) ∧
      next.events = db.events ++ [.statement sql false] := by
  rw [execute_run]
  cases hfault : (db.answer sql).2.fault with
  | none => exact .inl ⟨_, _, rfl, by simp⟩
  | some fault => exact .inr ⟨_, _, rfl, by simp⟩

/-- A statement for many records is noted, whether or not it goes wrong. -/
theorem executeBatch_cases (sql : String) (records : List (List Value)) (db : Database) :
    ∃ outcome next, executeBatch sql records db = (outcome, next) ∧
      next.events = db.events ++ [.batch sql records] := by
  unfold executeBatch
  rw [Stateful.run_bind, Stateful.run_get]
  dsimp only
  cases Script.take? db.batchFaults sql with
  | none => exact ⟨_, _, rfl, rfl⟩
  | some found => exact ⟨_, _, rfl, rfl⟩

end DatabaseM

end RequestBreakdown
