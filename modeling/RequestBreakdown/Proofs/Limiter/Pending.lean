import Mathlib.Data.List.Nodup
import RequestBreakdown.Limiter.Basic

/-!
# Who waits at a limiter

The queue of a limiter holds those who wait and the entries of those who have
given up.  What counts is the first kind, in order: a request that is not served
at once comes last, a slot that is given back goes to the first, and whoever
withdraws leaves a gap that nobody else fills.  A slot is free only when nobody
waits, so that a slot given back lets in one at most.
-/

namespace RequestBreakdown

namespace Limiter

def pendingIn (queue : List Waiter) : List Ticket :=
  (queue.filter (!·.cancelled)).map (·.ticket)

def pending (l : Limiter) : List Ticket := pendingIn l.queue

theorem waiting_eq_length (l : Limiter) : l.waiting = l.pending.length := by
  simp [waiting, pending, pendingIn, List.countP_eq_length_filter]

theorem waiting_eq_zero {l : Limiter} : l.waiting = 0 ↔ l.pending = [] := by
  rw [waiting_eq_length, List.length_eq_zero_iff]

/-- Slots are not used beyond the capacity, and none is free while someone waits. -/
structure Sound (l : Limiter) : Prop where
  active_le : l.active ≤ l.capacity
  full : l.active < l.capacity → l.pending = []
  nodup : l.pending.Nodup

theorem Sound.active_eq {l : Limiter} (hsound : l.Sound) (hsome : l.pending ≠ []) :
    l.active = l.capacity := by
  have hle := hsound.active_le
  have hnot : ¬ l.active < l.capacity := fun hlt => hsome (hsound.full hlt)
  omega

theorem sound_new (capacity : Nat) : ({ capacity } : Limiter).Sound :=
  ⟨Int.natCast_nonneg capacity, fun _ => rfl, List.nodup_nil⟩

theorem ofBound_int {bound : Int} (hbound : 1 ≤ bound) :
    ofBound (.int bound) = .ok { capacity := bound.toNat } := by
  have hlt : (Number.int bound).lt (.int 1) = false := by
    rw [Number.int_lt_int]
    exact decide_eq_false (by omega)
  simp [ofBound, hlt, capacityOf, Number.integer?, Number.counted]

/-! ## Requests -/

/-- A slot at once is given only if one is free and nobody waits. -/
theorem request_cases {l : Limiter} (hsound : l.Sound) (ticket : Ticket) :
    (l.request ticket = ({ l with active := l.active + 1 }, true) ∧
      l.active < l.capacity ∧ l.pending = []) ∨
    ∃ queue, l.request ticket = ({ l with queue }, false) ∧
      pendingIn queue = l.pending ++ [ticket] ∧ l.active = l.capacity := by
  unfold request
  by_cases hfree : l.active < l.capacity ∧ l.waiting = 0
  · left
    exact ⟨if_pos hfree, hfree.1, waiting_eq_zero.mp hfree.2⟩
  · right
    refine ⟨_, if_neg hfree, by simp [pending, pendingIn], ?_⟩
    have hle := hsound.active_le
    have hnot : ¬ l.active < l.capacity := fun hlt =>
      hfree ⟨hlt, waiting_eq_zero.mpr (hsound.full hlt)⟩
    omega

theorem Sound.request {l : Limiter} (hsound : l.Sound) {ticket : Ticket}
    (hnew : ticket ∉ l.pending) : (l.request ticket).1.Sound := by
  rcases request_cases hsound ticket with ⟨heq, hlt, hnone⟩ | ⟨queue, heq, hqueue, hfull⟩
  · rw [heq]
    exact ⟨Int.add_one_le_of_lt hlt, fun _ => hnone, hsound.nodup⟩
  · rw [heq]
    refine ⟨hsound.active_le, fun hlt => ?_, ?_⟩
    · exact absurd hfull (Int.ne_of_lt hlt)
    · show (pendingIn queue).Nodup
      rw [hqueue, ← List.concat_eq_append]
      exact hsound.nodup.concat hnew

/-! ## Slots given back -/

theorem pendingIn_handOver (capacity : Nat) (active : Int) (queue : List Waiter) :
    pendingIn queue = (handOver capacity active queue).granted ++
      pendingIn (handOver capacity active queue).queue := by
  induction queue generalizing active with
  | nil => rfl
  | cons w rest ih =>
      unfold handOver
      by_cases hfree : active < capacity
      · cases hcancelled : w.cancelled with
        | true => simpa [hfree, hcancelled, pendingIn] using ih active
        | false => simpa [hfree, hcancelled, pendingIn] using ih (active + 1)
      · simp [hfree]

theorem active_handOver (capacity : Nat) (active : Int) (queue : List Waiter) :
    (handOver capacity active queue).active =
      active + (handOver capacity active queue).granted.length := by
  induction queue generalizing active with
  | nil => simp [handOver]
  | cons w rest ih =>
      unfold handOver
      by_cases hfree : active < capacity
      · cases hcancelled : w.cancelled with
        | true => simpa [hfree, hcancelled] using ih active
        | false =>
            have hrest := ih (active + 1)
            simp only [hfree, if_true, Bool.false_eq_true, if_false,
              List.length_cons]
            omega
      · simp [hfree]

theorem handOver_full (capacity : Nat) {active : Int} (hle : active ≤ capacity)
    (queue : List Waiter) :
    (handOver capacity active queue).active ≤ capacity ∧
      ((handOver capacity active queue).active < capacity →
        (handOver capacity active queue).queue = []) := by
  induction queue generalizing active with
  | nil => exact ⟨hle, fun _ => rfl⟩
  | cons w rest ih =>
      unfold handOver
      by_cases hfree : active < capacity
      · cases hcancelled : w.cancelled with
        | true => simpa [hfree, hcancelled] using ih hle
        | false =>
            simpa [hfree, hcancelled] using ih (Int.add_one_le_of_lt hfree)
      · rw [if_neg hfree]
        exact ⟨hle, fun hlt => absurd hlt hfree⟩

/-- A slot given back goes to the first who waits, if anybody does. -/
theorem release_cases {l : Limiter} (hsound : l.Sound) :
    (l.pending = [] ∧ l.release.2 = [] ∧ l.release.1.active = l.active - 1 ∧
      l.release.1.pending = []) ∨
    ∃ first rest, l.pending = first :: rest ∧ l.release.2 = [first] ∧
      l.release.1.active = l.active ∧ l.release.1.pending = rest := by
  have hpending : l.pending = l.release.2 ++ l.release.1.pending :=
    pendingIn_handOver l.capacity (l.active - 1) l.queue
  have hactive : l.release.1.active = l.active - 1 + l.release.2.length :=
    active_handOver l.capacity (l.active - 1) l.queue
  have hle := hsound.active_le
  obtain ⟨hbound, hempty⟩ := handOver_full l.capacity
    (show l.active - 1 ≤ l.capacity by omega) l.queue
  have hbound : l.release.1.active ≤ l.capacity := hbound
  have hleft : l.release.1.active < l.capacity → l.release.1.pending = [] := by
    intro hlt
    have hqueue : l.release.1.queue = [] := hempty hlt
    simp [pending, hqueue, pendingIn]
  cases hgranted : l.release.2 with
  | nil =>
      simp only [hgranted, List.nil_append, List.length_nil] at hpending hactive
      have hnone : l.release.1.pending = [] := hleft (by omega)
      exact .inl ⟨hpending.trans hnone, rfl, by omega, hnone⟩
  | cons first others =>
      have hsome : l.pending ≠ [] := by simp [hpending, hgranted]
      have hfull := hsound.active_eq hsome
      -- One slot is free, so that there is one to be let in.
      have hone : others = [] := by
        rw [hgranted, List.length_cons] at hactive
        exact List.length_eq_zero_iff.mp (by omega)
      subst hone
      rw [hgranted] at hpending hactive
      refine .inr ⟨first, l.release.1.pending, hpending, rfl, ?_, rfl⟩
      simpa using hactive

theorem Sound.release {l : Limiter} (hsound : l.Sound) : l.release.1.Sound := by
  have hnodup := hsound.nodup
  have hle := hsound.active_le
  have hcapacity : l.release.1.capacity = l.capacity := rfl
  rcases release_cases hsound with ⟨-, -, hactive, hnone⟩ |
    ⟨first, rest, hpending, -, hactive, hrest⟩
  · exact ⟨by omega, fun _ => hnone, by simp [hnone]⟩
  · have hfull := hsound.active_eq (by simp [hpending])
    rw [hpending, List.nodup_cons] at hnodup
    exact ⟨by omega, fun hlt => by omega, hrest ▸ hnodup.2⟩

/-! ## Withdrawals -/

theorem pending_withdraw (l : Limiter) (ticket : Ticket) :
    (l.withdraw ticket).pending = l.pending.filter (· ≠ ticket) := by
  unfold pending withdraw
  dsimp only
  generalize l.queue = queue
  induction queue with
  | nil => rfl
  | cons w rest ih =>
      simp only [pendingIn] at ih ⊢
      by_cases hticket : w.ticket = ticket
      · cases hcancelled : w.cancelled <;> simp [hticket, hcancelled, ih]
      · cases hcancelled : w.cancelled <;> simp [hticket, hcancelled, ih]

theorem Sound.withdraw {l : Limiter} (hsound : l.Sound) (ticket : Ticket) :
    (l.withdraw ticket).Sound := by
  refine ⟨hsound.active_le, fun hlt => ?_, ?_⟩
  · rw [pending_withdraw, hsound.full hlt]
    rfl
  · rw [pending_withdraw]
    exact hsound.nodup.filter _

end Limiter

end RequestBreakdown
