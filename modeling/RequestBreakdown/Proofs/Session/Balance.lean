import Mathlib.Logic.Function.Basic
import RequestBreakdown.Proofs.Limiter.Pending
import RequestBreakdown.Proofs.Session.Turn

/-!
# Slots and the loads that hold them

A limiter counts its slots, but it does not know whose they are.  The loads of a
session do: those that have been granted a slot, and those whose query is under
way.  The two accounts agree when as many slots are in use as there are such
loads, and those who wait at the limiter are the loads that are queued.
-/

namespace RequestBreakdown

namespace LoadTaskState

/-- It has been granted a slot, or its query has been sent. -/
def holds : LoadTaskState → Bool
  | .granted _ | .querying _ _ => true
  | .created | .queued _ | .complete _ | .failed _ => false

def waits : LoadTaskState → Bool
  | .queued _ => true
  | .created | .granted _ | .querying _ _ | .complete _ | .failed _ => false

def query? : LoadTaskState → Option QueryId
  | .querying _ query => some query
  | .created | .queued _ | .granted _ | .complete _ | .failed _ => none

theorem waits_eq_true {state : LoadTaskState} :
    state.waits = true ↔ ∃ run, state = .queued run := by
  cases state <;> simp [waits]

theorem query?_eq_some {state : LoadTaskState} {query : QueryId} :
    state.query? = some query ↔ ∃ run, state = .querying run query := by
  cases state <;> simp [query?]

theorem waits_of_holds {state : LoadTaskState} (hholds : state.holds = true) :
    state.waits = false := by
  cases state <;> simp_all [holds, waits]

end LoadTaskState

/-- How far the loads have come. -/
abbrev LoadStates := TaskId → Option LoadTaskState

namespace Limiter

/-- The slots in use are those of the loads that hold one, and it is the queued loads
that wait. -/
structure Balanced (l : Limiter) (capacity : Nat) (states : LoadStates) : Prop where
  capacity_eq : l.capacity = capacity
  sound : l.Sound
  pending : ∀ id, id ∈ l.pending ↔ (states id).any (·.waits) = true
  held : ∃ holders : List TaskId, holders.Nodup ∧ l.active = holders.length ∧
    ∀ id, id ∈ holders ↔ (states id).any (·.holds) = true

variable {l : Limiter} {capacity : Nat} {states others : LoadStates} {id : TaskId}

theorem balanced_new (capacity : Nat) :
    ({ capacity } : Limiter).Balanced capacity fun _ => none :=
  ⟨rfl, sound_new capacity, by simp [pending, pendingIn], [], List.nodup_nil, rfl, by simp⟩

theorem Balanced.congr (hbalanced : l.Balanced capacity states)
    (hwaits : ∀ id, (others id).any (·.waits) = (states id).any (·.waits))
    (hholds : ∀ id, (others id).any (·.holds) = (states id).any (·.holds)) :
    l.Balanced capacity others := by
  obtain ⟨holders, hnodup, hactive, hmem⟩ := hbalanced.held
  exact ⟨hbalanced.capacity_eq, hbalanced.sound, fun id => hwaits id ▸ hbalanced.pending id,
    holders, hnodup, hactive, fun id => hholds id ▸ hmem id⟩

/-- A load goes on and neither comes to a slot nor leaves one. -/
theorem Balanced.update (hbalanced : l.Balanced capacity states) (id : TaskId)
    (state : Option LoadTaskState)
    (hwaits : state.any (·.waits) = (states id).any (·.waits))
    (hholds : state.any (·.holds) = (states id).any (·.holds)) :
    l.Balanced capacity (Function.update states id state) := by
  refine hbalanced.congr (fun other => ?_) fun other => ?_
  · by_cases heq : other = id
    · subst heq
      simpa using hwaits
    · rw [Function.update_of_ne heq]
  · by_cases heq : other = id
    · subst heq
      simpa using hholds
    · rw [Function.update_of_ne heq]

/-- A load that asks for a slot is granted one, or it is queued. -/
theorem Balanced.request (hbalanced : l.Balanced capacity states) (id : TaskId)
    (run : RunningLoad) (hwaits : (states id).any (·.waits) = false)
    (hholds : (states id).any (·.holds) = false) :
    (l.request id).1.Balanced capacity (Function.update states id
      (some (if (l.request id).2 then .granted run else .queued run))) := by
  obtain ⟨holders, hnodup, hactive, hmem⟩ := hbalanced.held
  have hpending : id ∉ l.pending := by simp [hbalanced.pending, hwaits]
  have hother : id ∉ holders := by simp [hmem, hholds]
  have hsound := hbalanced.sound.request hpending
  rcases request_cases hbalanced.sound id with ⟨heq, -, -⟩ | ⟨queue, heq, hqueue, -⟩
  · rw [heq] at hsound ⊢
    refine ⟨hbalanced.capacity_eq, hsound, fun other => ?_, id :: holders,
      List.nodup_cons.mpr ⟨hother, hnodup⟩, ?_, fun other => ?_⟩
    · show other ∈ l.pending ↔ _
      by_cases hself : other = id
      · subst hself
        exact iff_of_false hpending (by simp [LoadTaskState.waits])
      · simpa [Function.update_of_ne hself] using hbalanced.pending other
    · simp [hactive]
    · by_cases hself : other = id
      · subst hself
        simp [LoadTaskState.holds]
      · simpa [Function.update_of_ne hself, hself] using hmem other
  · rw [heq] at hsound ⊢
    refine ⟨hbalanced.capacity_eq, hsound, fun other => ?_, holders, hnodup, hactive,
      fun other => ?_⟩
    · show other ∈ pendingIn queue ↔ _
      by_cases hself : other = id
      · subst hself
        simp [hqueue, LoadTaskState.waits]
      · simpa [Function.update_of_ne hself, hqueue, hself] using
          hbalanced.pending other
    · by_cases hself : other = id
      · subst hself
        exact iff_of_false hother (by simp [LoadTaskState.holds])
      · simpa [Function.update_of_ne hself] using hmem other

/-- Nobody waits for the slot that a load gives back. -/
theorem Balanced.release_of_nobody (hbalanced : l.Balanced capacity states)
    (hholds : (states id).any (·.holds) = true) (hnone : l.pending = [])
    (hrest : l.release.1.pending = []) (hless : l.release.1.active = l.active - 1) :
    l.release.1.Balanced capacity (Function.update states id none) := by
  obtain ⟨holders, hnodup, hactive, hmem⟩ := hbalanced.held
  have hid : id ∈ holders := (hmem id).mpr hholds
  refine ⟨hbalanced.capacity_eq, hbalanced.sound.release, fun other => ?_,
    holders.erase id, hnodup.erase id, ?_, fun other => ?_⟩
  · have hother := hbalanced.pending other
    rw [hnone] at hother
    rw [hrest]
    by_cases hself : other = id
    · subst hself
      simp
    · rw [Function.update_of_ne hself]
      exact hother
  · have hpos := List.length_pos_of_mem hid
    rw [hless, hactive, List.length_erase_of_mem hid]
    omega
  · rw [hnodup.mem_erase_iff, hmem]
    by_cases hself : other = id
    · subst hself
      simp
    · simp [hself]

/-- The slot that a load gives back goes to the first of those who wait. -/
theorem Balanced.release_to_first (hbalanced : l.Balanced capacity states)
    (hholds : (states id).any (·.holds) = true) {first : TaskId} {rest : List TaskId}
    {run : RunningLoad} (hfirst : states first = some (.queued run)) (hne : first ≠ id)
    (hwaits : (states id).any (·.waits) = false) (hpending : l.pending = first :: rest)
    (hrest : l.release.1.pending = rest) (hsame : l.release.1.active = l.active) :
    l.release.1.Balanced capacity (Function.update (Function.update states id none) first
      (some (.granted run))) := by
  obtain ⟨holders, hnodup, hactive, hmem⟩ := hbalanced.held
  have hid : id ∈ holders := (hmem id).mpr hholds
  have hleft : first ∉ holders.erase id := by
    rw [hnodup.mem_erase_iff, hmem, hfirst]
    simp [LoadTaskState.holds]
  have hnodupPending := hbalanced.sound.nodup
  rw [hpending, List.nodup_cons] at hnodupPending
  refine ⟨hbalanced.capacity_eq, hbalanced.sound.release, fun other => ?_,
    first :: holders.erase id, List.nodup_cons.mpr ⟨hleft, hnodup.erase id⟩, ?_,
    fun other => ?_⟩
  · have hother := hbalanced.pending other
    rw [hpending, List.mem_cons] at hother
    rw [hrest]
    by_cases heq : other = first
    · subst heq
      exact iff_of_false hnodupPending.1 (by simp [LoadTaskState.waits])
    · rw [or_iff_right heq] at hother
      rw [Function.update_of_ne heq, hother]
      by_cases hself : other = id
      · subst hself
        simp [hwaits]
      · rw [Function.update_of_ne hself]
  · have hpos := List.length_pos_of_mem hid
    rw [hsame, hactive, List.length_cons, List.length_erase_of_mem hid]
    omega
  · by_cases heq : other = first
    · subst heq
      simp [LoadTaskState.holds]
    · rw [List.mem_cons, or_iff_right heq, hnodup.mem_erase_iff, hmem,
        Function.update_of_ne heq]
      by_cases hself : other = id
      · subst hself
        simp
      · simp [hself]

/-- A load gives its slot back, and the first of those who wait is granted it. -/
theorem Balanced.release (hbalanced : l.Balanced capacity states)
    (hholds : (states id).any (·.holds) = true)
    (hwaits : (states id).any (·.waits) = false) :
    (l.release.2 = [] ∧ l.release.1.Balanced capacity (Function.update states id none)) ∨
    ∃ first run, l.release.2 = [first] ∧ first ≠ id ∧
      states first = some (.queued run) ∧
      l.release.1.Balanced capacity (Function.update (Function.update states id none) first
        (some (.granted run))) := by
  rcases release_cases hbalanced.sound with ⟨hnone, hgranted, hless, hrest⟩ |
    ⟨first, rest, hpending, hgranted, hsame, hrest⟩
  · exact .inl ⟨hgranted, hbalanced.release_of_nobody hholds hnone hrest hless⟩
  · have hmem := (hbalanced.pending first).mp (by simp [hpending])
    have hne : first ≠ id := by
      rintro rfl
      rw [hwaits] at hmem
      exact absurd hmem Bool.false_ne_true
    obtain ⟨state, hstate, hqueued⟩ := (Option.any_eq_true _ _).mp hmem
    obtain ⟨run, rfl⟩ := LoadTaskState.waits_eq_true.mp hqueued
    exact .inr ⟨first, run, hgranted, hne, hstate,
      hbalanced.release_to_first hholds hstate hne hwaits hpending hrest hsame⟩

end Limiter

end RequestBreakdown
