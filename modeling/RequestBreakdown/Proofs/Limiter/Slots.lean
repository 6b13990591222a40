import Mathlib.Data.List.Count
import RequestBreakdown.Proofs.Limiter.Line

/-!
# The slots of a limiter

As long as tasks only do their work inside slots, and nobody gives back a slot
from outside, every slot in use has one task: one that is inside, or one to which
it was handed over and which has not resumed.  So no slot is lost when a task
fails or is cancelled, whatever the moment, and none is given twice.
-/

namespace RequestBreakdown

/-- The slots that a task has. -/
def ClientPhase.slots : ClientPhase → Nat
  | .granted | .working => 1
  | .created | .queued | .withdrawn | .ended => 0

namespace Clients

variable {α : Type} {s next : Clients α} {ticket : Ticket} {c : Client α}

/-- Tasks do their work inside slots, and give back nobody else's. -/
def Action.IsScoped : Action α → Prop
  | .create kind _ => kind = .worker
  | .release _ => False
  | .cancel _ | .endWork .. | .resume _ => True

def inside (s : Clients α) : Nat := s.phases.count .working

/-- Tasks to which a slot was given while they were queued, and which have not resumed. -/
def handedOver (s : Clients α) : Nat := s.phases.count .granted

def held (s : Clients α) : Nat := s.inside + s.handedOver

theorem count_set_add {phases : List ClientPhase} {old : ClientPhase}
    (hold : phases[ticket]? = some old) (new phase : ClientPhase) :
    (phases.set ticket new).count phase + (if old = phase then 1 else 0) =
      phases.count phase + if new = phase then 1 else 0 := by
  obtain ⟨hlt, hget⟩ := List.getElem?_eq_some_iff.mp hold
  have hmem : old ∈ phases := hget ▸ List.getElem_mem hlt
  rw [List.count_set hlt, hget]
  simp only [beq_iff_eq]
  by_cases heq : old = phase
  · have hpos : 0 < phases.count phase := List.count_pos_iff.mpr (heq ▸ hmem)
    simp only [heq, if_true]
    omega
  · simp [heq]

theorem held_set {old new : ClientPhase} (hold : s.phases[ticket]? = some old)
    (hphases : next.phases = s.phases.set ticket new) :
    next.held + old.slots = s.held + new.slots := by
  have hworking := count_set_add hold new .working
  have hgranted := count_set_add hold new .granted
  unfold held inside handedOver
  rw [hphases]
  cases old <;> cases new <;> simp_all [ClientPhase.slots] <;> omega

/-! ## One action -/

/-- Who has slots, and how many slots are in use, differ by no more than before. -/
def Balanced (s next : Clients α) : Prop :=
  next.limiter.active + s.held = s.limiter.active + next.held

theorem Balanced.of_set {old new : ClientPhase} (hold : s.phases[ticket]? = some old)
    (hphases : next.phases = s.phases.set ticket new)
    (hactive : next.limiter.active + old.slots = s.limiter.active + new.slots) :
    Balanced s next := by
  have hheld := held_set hold hphases
  unfold Balanced
  omega

theorem HandsOn.held_add (hhands : s.HandsOn next) (hline : s.InLine) :
    next.limiter.active + s.held + 1 = s.limiter.active + next.held := by
  rcases hhands.cases hline with ⟨-, hactive, -, hphases⟩ |
    ⟨first, rest, -, hactive, -, hqueued, hphases⟩
  · have hheld : next.held = s.held := by simp [held, inside, handedOver, hphases]
    omega
  · have hheld : next.held + 0 = s.held + 1 := held_set hqueued hphases
    omega

theorem Leaves.held_add {old : ClientPhase} (hleaves : Leaves ticket s next)
    (hline : s.InLine) (hold : s.phases[ticket]? = some old) (hqueued : old ≠ .queued) :
    next.limiter.active + s.held + 1 = s.limiter.active + next.held + old.slots := by
  obtain ⟨between, hhands, hlimiter, hphases⟩ := hleaves.exists_handsOn
  have hbetween := hhands.held_add hline
  have hended : next.held + old.slots = between.held + 0 :=
    held_set (hhands.phase_eq hline hold hqueued) hphases
  rw [hlimiter]
  omega

theorem Change.balanced (hchange : Change s next) (hline : s.InLine)
    (hworkers : ∀ kind ∈ s.kinds, kind = .worker) : Balanced s next := by
  cases hchange with
  | rests hlimiter hphases =>
      simp [Balanced, held, inside, handedOver, hlimiter, hphases]
  | begins hlimiter hphases =>
      simp [Balanced, held, inside, handedOver, hlimiter, hphases]
  | advances ticket c phase hc hadvances hlimiter hphases =>
      apply Balanced.of_set (phases_of_client? hc) hphases
      rw [hlimiter]
      cases hadvances with
      | stopped hphase => simp [hphase, ClientPhase.slots]
      | gone hphase => simp [hphase, ClientPhase.slots]
      | held hphase hkind =>
          have hworker := hworkers c.kind (kinds_of_client? hc)
          simp [hkind] at hworker
      | works hphase => rcases hphase with hphase | hphase <;> simp [hphase, ClientPhase.slots]
  | queues ticket c hc hphase hcancel hrequest hlimiter hphases =>
      apply Balanced.of_set (phases_of_client? hc) hphases
      rw [hlimiter, (hline.request_later hrequest).1, hphase]
      rfl
  | enters ticket c phase hc hphase hcancel hrequest hstays hlimiter hphases =>
      apply Balanced.of_set (phases_of_client? hc) hphases
      have hworks : phase = .working := by
        rcases hstays with hworks | ⟨-, hkind⟩
        · exact hworks
        · have hworker := hworkers c.kind (kinds_of_client? hc)
          simp [hkind] at hworker
      rw [hlimiter, (hline.request_at_once hrequest).1, hphase, hworks]
      simp [ClientPhase.slots]
  | passes ticket c hc hphase hcancel hrequest hleaves =>
      have hticket := hline.notMem_of_phase hc (by simp [hphase])
      have hold := phases_of_client? hc
      rw [hphase] at hold
      have hadd := hleaves.held_add (hline.of_request hticket hrequest) hold (by decide)
      rw [(hline.request_at_once hrequest).1] at hadd
      simp only [ClientPhase.slots, held, inside, handedOver, phases] at hadd
      simp only [Balanced, held, inside, handedOver, phases]
      omega
  | leaves ticket c hc hphase hleaves =>
      have hqueued : c.phase ≠ .queued := by
        rcases hphase with hphase | hphase <;> simp [hphase]
      have hadd := hleaves.held_add hline (phases_of_client? hc) hqueued
      have hone : c.phase.slots = 1 := by
        rcases hphase with hphase | hphase <;> simp [hphase, ClientPhase.slots]
      unfold Balanced
      omega
  | withdraws ticket c hc hphase hlimiter hphases =>
      apply Balanced.of_set (phases_of_client? hc) hphases
      rw [hlimiter, hphase]
      rfl

/-! ## Whole runs -/

/-- Every slot in use has a task, and all tasks do work. -/
structure Accounted (s : Clients α) : Prop where
  line : s.InLine
  workers : ∀ kind ∈ s.kinds, kind = .worker
  active_eq : s.limiter.active = s.held

theorem accounted_new (capacity : Nat) :
    ({ limiter := { capacity } } : Clients α).Accounted :=
  ⟨inLine_new capacity, by simp [kinds], by simp [held, inside, handedOver, phases]⟩

theorem Accounted.perform (haccounted : s.Accounted) {action : Action α}
    (hscoped : action.IsScoped) : (s.perform action).Accounted := by
  have hworkers : ∀ kind ∈ (s.perform action).kinds, kind = .worker := by
    rcases s.kinds_perform action with hkinds | ⟨kind, name, rfl, hkinds⟩
    · rw [hkinds]
      exact haccounted.workers
    · rw [hkinds]
      intro other hmem
      rcases List.mem_append.mp hmem with hold | hnew
      · exact haccounted.workers other hold
      · exact (List.mem_singleton.mp hnew).trans hscoped
  refine ⟨haccounted.line.perform action, hworkers, ?_⟩
  rcases s.perform_cases action with hchange | ⟨name, rfl, -⟩
  · have hbalanced := hchange.balanced haccounted.line haccounted.workers
    have hactive := haccounted.active_eq
    unfold Balanced at hbalanced
    omega
  · exact hscoped.elim

theorem Accounted.run (haccounted : s.Accounted) {actions : List (Action α)}
    (hscoped : ∀ action ∈ actions, action.IsScoped) : (s.run actions).Accounted := by
  induction actions generalizing s with
  | nil => exact haccounted
  | cons action rest ih =>
      obtain ⟨hfirst, hrest⟩ := List.forall_mem_cons.mp hscoped
      exact ih (haccounted.perform hfirst) hrest

theorem held_eq_zero (hended : ∀ c ∈ s.clients, c.phase = .ended) : s.held = 0 := by
  have hall : ∀ phase ∈ s.phases, phase = .ended := by
    intro phase hmem
    obtain ⟨c, hc, rfl⟩ := List.mem_map.mp hmem
    exact hended c hc
  have hworking : s.inside = 0 := List.count_eq_zero.mpr fun hmem => by
    simpa using hall _ hmem
  have hgranted : s.handedOver = 0 := List.count_eq_zero.mpr fun hmem => by
    simpa using hall _ hmem
  rw [held, hworking, hgranted]

/-- Whatever happens to the tasks, the slots in use are those that tasks have, they
are no more than the bound allows, and none is free while a task is queued. -/
theorem slots_accounted {bound : Int} (hbound : 1 ≤ bound) :
    ∃ limiter, Limiter.ofBound (.int bound) = .ok limiter ∧
      ∀ actions : List (Action α), (∀ action ∈ actions, action.IsScoped) →
        let s := run { limiter } actions
        s.limiter.active = s.inside + s.handedOver ∧
        0 ≤ s.limiter.active ∧ s.limiter.active ≤ bound ∧
        (s.limiter.active < bound →
          s.limiter.waiting = 0 ∧ ∀ c ∈ s.clients, c.phase ≠ .queued) ∧
        ((∀ c ∈ s.clients, c.phase = .ended) →
          s.limiter.active = 0 ∧ s.limiter.waiting = 0) := by
  refine ⟨_, Limiter.ofBound_int hbound, fun actions hscoped => ?_⟩
  intro s
  have haccounted : s.Accounted := (accounted_new bound.toNat).run hscoped
  have hactive : s.limiter.active = s.inside + s.handedOver := haccounted.active_eq
  have hcapacity : (s.limiter.capacity : Int) = bound := by
    have hrun := capacity_run ({ limiter := { capacity := bound.toNat } } : Clients α) actions
    have hnat : s.limiter.capacity = bound.toNat := hrun
    omega
  have hfree : s.limiter.active < bound → s.limiter.pending = [] := fun hlt =>
    haccounted.line.sound.full (hcapacity ▸ hlt)
  refine ⟨hactive, by omega, hcapacity ▸ haccounted.line.sound.active_le, ?_, ?_⟩
  · intro hlt
    exact ⟨Limiter.waiting_eq_zero.mpr (hfree hlt), haccounted.line.not_queued (hfree hlt)⟩
  · intro hended
    have hnone : s.limiter.active = 0 := by
      rw [haccounted.active_eq, held_eq_zero hended]
      rfl
    exact ⟨hnone, Limiter.waiting_eq_zero.mpr (hfree (by omega))⟩

/-- Of three tasks for one slot the first fails, and the second is cancelled when
the slot was already handed over to it. -/
def overtakenHandOver : List (Action Nat) :=
  [.create .worker "first", .create .worker "second", .create .worker "third",
    .resume 0, .resume 0, .resume 0, .endWork 0 (.failed "lost"), .resume 0, .cancel 1]

theorem slots_accounted_overtaken :
    ∃ limiter, Limiter.ofBound (.int 1) = .ok limiter ∧
      (∀ action ∈ overtakenHandOver ++ [.resume 0], action.IsScoped) ∧
      (let s := run { limiter } overtakenHandOver
       s.limiter.active = s.inside + s.handedOver ∧ s.limiter.active = 1 ∧
        s.phases = [.ended, .granted, .queued]) ∧
      (let s := run { limiter } (overtakenHandOver ++ [.resume 0])
       s.limiter.active = s.inside + s.handedOver ∧ s.limiter.active = 1 ∧
        s.phases = [.ended, .ended, .granted]) := by
  have hscoped : ∀ action ∈ overtakenHandOver ++ [.resume 0], action.IsScoped := by
    simp [overtakenHandOver, Action.IsScoped]
  obtain ⟨limiter, hlimiter, hall⟩ :=
    @slots_accounted Nat 1 (by decide)
  have hone : limiter = { capacity := 1 } := by
    have hbound := (@Limiter.ofBound_int 1 (by decide)).symm.trans hlimiter
    exact (Except.ok.inj hbound).symm
  refine ⟨limiter, hlimiter, hscoped, ⟨?_, ?_⟩, ⟨?_, ?_⟩⟩
  · exact (hall overtakenHandOver fun action hmem =>
      hscoped action (List.mem_append_left _ hmem)).1
  · subst hone
    decide
  · exact (hall _ hscoped).1
  · subst hone
    decide

end Clients

end RequestBreakdown
