import RequestBreakdown.Limiter.Clients
import RequestBreakdown.Proofs.Limiter.Pending

/-!
# What happens to tasks

Tasks are created, cancelled and resumed, their work ends, and slots are given
back from outside, at any moment and in any order.  Of all that little matters
for the slots: the limiter and the phases of the tasks.  What one action can do
to these is said here once and for all.
-/

namespace RequestBreakdown

namespace Clients

variable {α : Type} {s next : Clients α} {ticket : Ticket} {c : Client α}

/-- What can happen to tasks that share a limiter.  A task that is ready resumes
by its place among those that are. -/
inductive Action (α : Type) where
  | create (kind : ClientKind) (name : String)
  | cancel (ticket : Ticket)
  | endWork (ticket : Ticket) (work : Work α)
  | release (name : Option String)
  | resume (place : Nat)

def perform (s : Clients α) : Action α → Clients α
  | .create kind name => s.create kind name
  | .cancel ticket => s.cancel ticket
  | .endWork ticket work => s.endWork ticket work
  | .release name => s.releaseFor name
  | .resume place =>
    match s.ready[place]? with
    | some ticket => resume { s with ready := s.ready.eraseIdx place } ticket
    | none => s

def run (s : Clients α) (actions : List (Action α)) : Clients α :=
  actions.foldl perform s

/-! ## Phases and kinds -/

def phases (s : Clients α) : List ClientPhase := s.clients.map (·.phase)

def kinds (s : Clients α) : List ClientKind := s.clients.map (·.kind)

theorem length_phases (s : Clients α) : s.phases.length = s.clients.length :=
  List.length_map _

theorem phases_of_client? (hc : s.client? ticket = some c) :
    s.phases[ticket]? = some c.phase := by
  rw [phases, List.getElem?_map]
  exact congrArg (Option.map (·.phase)) hc

theorem exists_client?_of_phases {phase : ClientPhase}
    (hphase : s.phases[ticket]? = some phase) :
    ∃ c, s.client? ticket = some c ∧ c.phase = phase := by
  rw [phases, List.getElem?_map] at hphase
  exact Option.map_eq_some_iff.mp hphase

theorem kinds_of_client? (hc : s.client? ticket = some c) :
    c.kind ∈ s.kinds :=
  List.mem_map_of_mem (List.mem_of_getElem? hc)

theorem phases_update (s : Clients α) (ticket : Ticket)
    {f : Client α → Client α} {phase : ClientPhase} (hf : ∀ c, (f c).phase = phase) :
    (s.update ticket f).phases = s.phases.set ticket phase := by
  apply List.ext_getElem?
  intro other
  simp only [phases, update, List.getElem?_map, List.getElem?_modify,
    List.getElem?_set, List.length_map]
  by_cases heq : ticket = other
  · subst heq
    by_cases hlt : ticket < s.clients.length <;> simp [hlt, hf]
  · simp [heq]

theorem phases_update_of_same (s : Clients α) (ticket : Ticket)
    {f : Client α → Client α} (hf : ∀ c, (f c).phase = c.phase) :
    (s.update ticket f).phases = s.phases := by
  apply List.ext_getElem?
  intro other
  simp only [phases, update, List.getElem?_map, List.getElem?_modify]
  by_cases heq : ticket = other
  · cases s.clients[other]? <;> simp [heq, hf]
  · simp [heq]

theorem kinds_update (s : Clients α) (ticket : Ticket)
    {f : Client α → Client α} (hf : ∀ c, (f c).kind = c.kind) :
    (s.update ticket f).kinds = s.kinds := by
  apply List.ext_getElem?
  intro other
  simp only [kinds, update, List.getElem?_map, List.getElem?_modify]
  by_cases heq : ticket = other
  · cases s.clients[other]? <;> simp [heq, hf]
  · simp [heq]

@[simp] theorem limiter_update (s : Clients α) (ticket : Ticket)
    (f : Client α → Client α) : (s.update ticket f).limiter = s.limiter := rfl

@[simp] theorem limiter_wake (s : Clients α) (ticket : Ticket) :
    (s.wake ticket).limiter = s.limiter := rfl

@[simp] theorem phases_wake (s : Clients α) (ticket : Ticket) :
    (s.wake ticket).phases = s.phases := rfl

@[simp] theorem kinds_wake (s : Clients α) (ticket : Ticket) :
    (s.wake ticket).kinds = s.kinds := rfl

@[simp] theorem limiter_mark (s : Clients α) (name : String)
    (status : ClientStatus α) : (s.mark name status).limiter = s.limiter := rfl

@[simp] theorem phases_mark (s : Clients α) (name : String)
    (status : ClientStatus α) : (s.mark name status).phases = s.phases := rfl

@[simp] theorem kinds_mark (s : Clients α) (name : String)
    (status : ClientStatus α) : (s.mark name status).kinds = s.kinds := rfl

@[simp] theorem limiter_finish (s : Clients α) (ticket : Ticket) :
    (s.finish ticket).limiter = s.limiter := rfl

@[simp] theorem phases_finish (s : Clients α) (ticket : Ticket) :
    (s.finish ticket).phases = s.phases.set ticket .ended :=
  s.phases_update ticket fun _ => rfl

@[simp] theorem kinds_finish (s : Clients α) (ticket : Ticket) :
    (s.finish ticket).kinds = s.kinds :=
  s.kinds_update ticket fun _ => rfl

/-! ## Slots that go on -/

def grantAll (phases : List ClientPhase) (granted : List Ticket) :
    List ClientPhase :=
  granted.foldl (fun phases ticket => phases.set ticket .granted) phases

theorem release_eq (s : Clients α) :
    s.release.limiter = s.limiter.release.1 ∧
      s.release.phases = grantAll s.phases s.limiter.release.2 ∧
      s.release.kinds = s.kinds := by
  have hfold : ∀ (granted : List Ticket) (s : Clients α),
      let next := granted.foldl (fun s ticket =>
        (s.update ticket fun c => { c with phase := .granted }).wake ticket) s
      next.limiter = s.limiter ∧ next.phases = grantAll s.phases granted ∧
        next.kinds = s.kinds := by
    intro granted
    induction granted with
    | nil => exact fun s => ⟨rfl, rfl, rfl⟩
    | cons ticket rest ih =>
        intro s
        obtain ⟨hlimiter, hphases, hkinds⟩ := ih
          ((s.update ticket fun c => { c with phase := .granted }).wake ticket)
        refine ⟨hlimiter, hphases.trans ?_, hkinds.trans ?_⟩
        · exact congrArg (fun phases => grantAll phases rest)
            (s.phases_update ticket fun _ => rfl)
        · exact s.kinds_update ticket fun _ => rfl
  exact hfold s.limiter.release.2 { s with limiter := s.limiter.release.1 }

@[simp] theorem limiter_release (s : Clients α) :
    s.release.limiter = s.limiter.release.1 := s.release_eq.1

@[simp] theorem phases_release (s : Clients α) :
    s.release.phases = grantAll s.phases s.limiter.release.2 := s.release_eq.2.1

@[simp] theorem kinds_release (s : Clients α) : s.release.kinds = s.kinds :=
  s.release_eq.2.2

/-- A slot is given back, and those who get it are granted it. -/
structure HandsOn (s next : Clients α) : Prop where
  limiter : next.limiter = s.limiter.release.1
  phases : next.phases = grantAll s.phases s.limiter.release.2

/-- A task leaves its slot. -/
structure Leaves (ticket : Ticket) (s next : Clients α) : Prop where
  limiter : next.limiter = s.limiter.release.1
  phases : next.phases =
    (grantAll s.phases s.limiter.release.2).set ticket .ended

theorem leaves_finishInside (s : Clients α) (ticket : Ticket) (c : Client α)
    (status : ClientStatus α) :
    s.Leaves ticket (s.finishInside ticket c status) :=
  ⟨by simp [finishInside], by simp [finishInside]⟩

theorem continueWork_cases (s : Clients α) (ticket : Ticket) (c : Client α) :
    ((s.continueWork ticket c).limiter = s.limiter ∧
      (s.continueWork ticket c).phases = s.phases.set ticket .working) ∨
    s.Leaves ticket (s.continueWork ticket c) := by
  unfold continueWork
  split
  · exact .inr (s.leaves_finishInside ..)
  · split
    · exact .inl ⟨rfl, s.phases_update ticket fun _ => rfl⟩
    · exact .inr (s.leaves_finishInside ..)
    · exact .inr (s.leaves_finishInside ..)
    · exact .inr (s.leaves_finishInside ..)

/-! ## Single actions -/

/-- How a task goes on without the limiter. -/
inductive Advances (c : Client α) : ClientPhase → Prop where
  | stopped (hphase : c.phase = .created) (hcancel : c.mustCancel = true) :
      Advances c .ended
  | gone (hphase : c.phase = .withdrawn) : Advances c .ended
  | held (hphase : c.phase = .granted) (hkind : c.kind = .holder) : Advances c .ended
  | works (hphase : c.phase = .granted ∨ c.phase = .working) : Advances c .working

/-- What an action of the tasks comes to. -/
inductive Change (s next : Clients α) : Prop where
  | rests (hlimiter : next.limiter = s.limiter) (hphases : next.phases = s.phases)
  | begins (hlimiter : next.limiter = s.limiter)
      (hphases : next.phases = s.phases ++ [.created])
  | advances (ticket : Ticket) (c : Client α) (phase : ClientPhase)
      (hc : s.client? ticket = some c) (hadvances : Advances c phase)
      (hlimiter : next.limiter = s.limiter)
      (hphases : next.phases = s.phases.set ticket phase)
  | queues (ticket : Ticket) (c : Client α) (hc : s.client? ticket = some c)
      (hphase : c.phase = .created) (hcancel : c.mustCancel = false)
      (hrequest : (s.limiter.request ticket).2 = false)
      (hlimiter : next.limiter = (s.limiter.request ticket).1)
      (hphases : next.phases = s.phases.set ticket .queued)
  /-- A slot is given at once, and the task works in it or is content to hold it. -/
  | enters (ticket : Ticket) (c : Client α) (phase : ClientPhase)
      (hc : s.client? ticket = some c) (hphase : c.phase = .created)
      (hcancel : c.mustCancel = false)
      (hrequest : (s.limiter.request ticket).2 = true)
      (hstays : phase = .working ∨ phase = .ended ∧ c.kind = .holder)
      (hlimiter : next.limiter = (s.limiter.request ticket).1)
      (hphases : next.phases = s.phases.set ticket phase)
  /-- A slot is given at once to a task whose work has ended already. -/
  | passes (ticket : Ticket) (c : Client α) (hc : s.client? ticket = some c)
      (hphase : c.phase = .created) (hcancel : c.mustCancel = false)
      (hrequest : (s.limiter.request ticket).2 = true)
      (hleaves : Leaves ticket { s with limiter := (s.limiter.request ticket).1 } next)
  | leaves (ticket : Ticket) (c : Client α) (hc : s.client? ticket = some c)
      (hphase : c.phase = .granted ∨ c.phase = .working)
      (hleaves : Leaves ticket s next)
  | withdraws (ticket : Ticket) (c : Client α) (hc : s.client? ticket = some c)
      (hphase : c.phase = .queued)
      (hlimiter : next.limiter = s.limiter.withdraw ticket)
      (hphases : next.phases = s.phases.set ticket .withdrawn)

/-- The tasks that are ready do not count. -/
theorem Change.of_ready {ready : List Ticket}
    (hchange : Change { s with ready } next) : Change s next := by
  cases hchange with
  | rests hlimiter hphases => exact .rests hlimiter hphases
  | begins hlimiter hphases => exact .begins hlimiter hphases
  | advances ticket c phase hc hadvances hlimiter hphases =>
      exact .advances ticket c phase hc hadvances hlimiter hphases
  | queues ticket c hc hphase hcancel hrequest hlimiter hphases =>
      exact .queues ticket c hc hphase hcancel hrequest hlimiter hphases
  | enters ticket c phase hc hphase hcancel hrequest hstays hlimiter hphases =>
      exact .enters ticket c phase hc hphase hcancel hrequest hstays hlimiter hphases
  | passes ticket c hc hphase hcancel hrequest hleaves =>
      exact .passes ticket c hc hphase hcancel hrequest
        ⟨hleaves.limiter, hleaves.phases⟩
  | leaves ticket c hc hphase hleaves =>
      exact .leaves ticket c hc hphase ⟨hleaves.limiter, hleaves.phases⟩
  | withdraws ticket c hc hphase hlimiter hphases =>
      exact .withdraws ticket c hc hphase hlimiter hphases

theorem change_create (s : Clients α) (kind : ClientKind) (name : String) :
    s.Change (s.create kind name) :=
  .begins rfl (by simp [create, phases, mark])

theorem change_cancel (s : Clients α) (ticket : Ticket) :
    s.Change (s.cancel ticket) := by
  have hrests : ∀ f : Client α → Client α, (∀ c, (f c).phase = c.phase) →
      s.Change (s.update ticket f) :=
    fun f hf => .rests rfl (s.phases_update_of_same ticket hf)
  unfold cancel
  cases hc : s.client? ticket with
  | none => exact .rests rfl rfl
  | some c =>
      dsimp only
      cases hphase : c.phase with
      | queued =>
          exact .withdraws ticket c hc hphase rfl (phases_update _ ticket fun _ => rfl)
      | working =>
          cases c.work with
          | unfinished =>
              exact .rests rfl (s.phases_update_of_same ticket fun _ => rfl)
          | _ => exact hrests _ fun _ => rfl
      | ended => exact .rests rfl rfl
      | _ => exact hrests _ fun _ => rfl

theorem change_endWork (s : Clients α) (ticket : Ticket) (work : Work α) :
    s.Change (s.endWork ticket work) := by
  unfold endWork
  cases s.client? ticket with
  | none => exact .rests rfl rfl
  | some c =>
      dsimp only
      split
      · refine .rests ?_ ?_
        · split <;> rfl
        · have hphases : (s.update ticket fun c => { c with work }).phases = s.phases :=
            s.phases_update_of_same ticket fun _ => rfl
          split <;> exact hphases
      · exact .rests rfl rfl

theorem change_resume (s : Clients α) (ticket : Ticket) :
    s.Change (s.resume ticket) := by
  unfold resume
  cases hc : s.client? ticket with
  | none => exact .rests rfl rfl
  | some c =>
      dsimp only
      cases hphase : c.phase with
      | created =>
          dsimp only
          cases hcancel : c.mustCancel with
          | true =>
              exact .advances ticket c .ended hc (.stopped hphase hcancel) rfl
                (phases_finish ..)
          | false =>
              simp only [Bool.false_eq_true, if_false]
              cases hrequest : (s.limiter.request ticket).2 with
              | false =>
                  exact .queues ticket c hc hphase hcancel hrequest rfl
                    (phases_update _ ticket fun _ => rfl)
              | true =>
                  simp only [if_true]
                  unfold enter
                  cases hkind : c.kind with
                  | holder =>
                      exact .enters ticket c .ended hc hphase hcancel hrequest
                        (.inr ⟨rfl, hkind⟩) rfl (phases_finish ..)
                  | worker =>
                      rcases continueWork_cases _ ticket c with
                        ⟨hlimiter, hphases⟩ | hleaves
                      · exact .enters ticket c .working hc hphase hcancel hrequest
                          (.inl rfl) hlimiter hphases
                      · exact .passes ticket c hc hphase hcancel hrequest
                          ⟨hleaves.limiter, hleaves.phases⟩
      | withdrawn =>
          exact .advances ticket c .ended hc (.gone hphase) rfl (phases_finish ..)
      | granted =>
          dsimp only
          split
          · exact .leaves ticket c hc (.inl hphase) (s.leaves_finishInside ..)
          · unfold enter
            cases hkind : c.kind with
            | holder =>
                exact .advances ticket c .ended hc (.held hphase hkind) rfl
                  (phases_finish ..)
            | worker =>
                rcases continueWork_cases _ ticket c with
                  ⟨hlimiter, hphases⟩ | hleaves
                · exact .advances ticket c .working hc (.works (.inl hphase))
                    hlimiter hphases
                · exact .leaves ticket c hc (.inl hphase)
                    ⟨hleaves.limiter, hleaves.phases⟩
      | working =>
          rcases s.continueWork_cases ticket c with ⟨hlimiter, hphases⟩ | hleaves
          · exact .advances ticket c .working hc (.works (.inr hphase)) hlimiter hphases
          · exact .leaves ticket c hc (.inr hphase) hleaves
      | queued => exact .rests rfl rfl
      | ended => exact .rests rfl rfl

/-- An action is a change of the tasks, or a slot is given back from outside. -/
theorem perform_cases (s : Clients α) (action : Action α) :
    s.Change (s.perform action) ∨
      ∃ name, action = .release name ∧ s.HandsOn (s.perform action) := by
  cases action with
  | create kind name => exact .inl (s.change_create kind name)
  | cancel ticket => exact .inl (s.change_cancel ticket)
  | endWork ticket work => exact .inl (s.change_endWork ticket work)
  | release name =>
      right
      refine ⟨name, rfl, ?_⟩
      cases name <;> exact ⟨s.limiter_release, s.phases_release⟩
  | resume place =>
      left
      dsimp only [perform]
      split
      · exact (change_resume _ _).of_ready
      · exact .rests rfl rfl

/-! ## What tasks there are -/

theorem kinds_continueWork (s : Clients α) (ticket : Ticket) (c : Client α) :
    (s.continueWork ticket c).kinds = s.kinds := by
  unfold continueWork
  split
  · simp [finishInside]
  · split <;> simp [finishInside, kinds_update]

theorem kinds_enter (s : Clients α) (ticket : Ticket) (c : Client α) :
    (s.enter ticket c).kinds = s.kinds := by
  unfold enter
  cases c.kind with
  | holder => exact kinds_finish ..
  | worker => exact kinds_continueWork ..

theorem kinds_resume (s : Clients α) (ticket : Ticket) :
    (s.resume ticket).kinds = s.kinds := by
  unfold resume
  split
  · rfl
  · split
    · split
      · exact kinds_finish ..
      · dsimp only
        split
        · exact kinds_enter ..
        · exact kinds_update _ ticket fun _ => rfl
    · exact kinds_finish ..
    · split
      · simp [finishInside]
      · exact kinds_enter ..
    · exact kinds_continueWork ..
    · rfl
    · rfl

theorem kinds_cancel (s : Clients α) (ticket : Ticket) :
    (s.cancel ticket).kinds = s.kinds := by
  unfold cancel
  split
  · rfl
  · split
    · exact kinds_update _ ticket fun _ => rfl
    · split <;> exact kinds_update _ ticket fun _ => rfl
    · rfl
    · exact kinds_update _ ticket fun _ => rfl

theorem kinds_endWork (s : Clients α) (ticket : Ticket) (work : Work α) :
    (s.endWork ticket work).kinds = s.kinds := by
  unfold endWork
  split
  · rfl
  · split
    · dsimp only
      split <;> exact kinds_update _ ticket fun _ => rfl
    · rfl

/-- Only a task that is created adds its kind to the others. -/
theorem kinds_perform (s : Clients α) (action : Action α) :
    (s.perform action).kinds = s.kinds ∨
      ∃ kind name, action = .create kind name ∧
        (s.perform action).kinds = s.kinds ++ [kind] := by
  cases action with
  | create kind name =>
      exact .inr ⟨kind, name, rfl, by simp [perform, create, kinds, mark]⟩
  | cancel ticket => exact .inl (s.kinds_cancel ticket)
  | endWork ticket work => exact .inl (s.kinds_endWork ticket work)
  | release name =>
      left
      cases name <;> exact s.kinds_release
  | resume place =>
      left
      dsimp only [perform]
      split
      · exact kinds_resume ..
      · rfl

end Clients

end RequestBreakdown
