import RequestBreakdown.Backend.Engine
import RequestBreakdown.Proofs.Session.Balance
import RequestBreakdown.Proofs.Session.Reachable

/-!
# Superseded loads are silent

A load can be overtaken wherever it waits: for a slot, for the answer to its main
query or to a look-up.  From then on it shows nothing and keeps no error, and
ends cancelled with the query that it waits for, whatever that comes to.  Where
tokens are looked at, nothing more is sent in its name.
-/

namespace RequestBreakdown

namespace Session

variable {s next : Session} {id : TaskId} {t : LoadTask} {run : RunningLoad}

def suspended? (s : Session) (id : TaskId) : Option RunningLoad :=
  (s.loadTask? id).bind (·.state.run?)

def actor? (s : Session) : Option TaskId := s.ready.head?.bind s.eventTask?

def IsComplete (s : Session) (id : TaskId) (record : RecordId) : Prop :=
  ∃ t, s.loadTask? id = some t ∧ t.state = .complete record

instance (record : RecordId) : Decidable (s.IsComplete id record) :=
  decidable_of_iff ((s.loadTask? id).any fun t => t.state = .complete record) <| by
    simp [IsComplete, Option.any_eq_true]

theorem suspended?_eq_some :
    s.suspended? id = some run ↔
      ∃ t, s.loadTask? id = some t ∧ t.state.run? = some run := by
  simp [suspended?, Option.bind_eq_some_iff]

theorem not_isComplete_of_suspended? {record : RecordId}
    (hrun : s.suspended? id = some run) : ¬ s.IsComplete id record := by
  rintro ⟨t, hload, hstate⟩
  simp [suspended?, hload, hstate, LoadTaskState.run?] at hrun

theorem groupTask?_of_loadTask? (hload : s.loadTask? id = some t) :
    s.groupTask? id = none := by
  cases hgroup : s.groupTask? id with
  | none => rfl
  | some g => exact absurd hload (by simp [(loadTask?_of_groupTask? hgroup).2])

/-! ## The end of a superseded load -/

/-- A load ends without having shown anything, cancelled and with the error that
its record had. -/
structure Quits (id : TaskId) (run : RunningLoad) (s next : Session) : Prop where
  complete : next.IsComplete id run.record
  renderings : next.renderings = s.renderings
  queries : next.queries.length = s.queries.length
  record : next.record run.record =
    { s.record run.record with phase := .cancelled }

theorem quits_leave {outcome : QueryOutcome} (hload : s.HasLoad id t)
    (hrun : s.Admits run) (hsuperseded : s.registry.Superseded run.activity) :
    Quits id run s (s.leave id t run outcome) := by
  have hrelease : Turn id s s.releaseSlot := turn_releaseSlot
  obtain ⟨tasks, ready, heq⟩ := s.releaseSlot_eq
  have hcurrent : s.releaseSlot.registry.isCurrent run.activity = false :=
    ActivityRegistry.isCurrent_of_superseded
      (hrelease.registry.superseded _ hsuperseded)
  have hleave : s.leave id t run outcome = s.releaseSlot.follow id t run.activity
      run.record (run.load.finish (s.releaseSlot.record run.record)
        .cancelled) := by
    unfold leave
    dsimp only
    rw [hcurrent, Load.resume_of_not_current hrun.waits]
  obtain ⟨limiter', tasks', ready', hfollow⟩ := s.releaseSlot.follow_eq id t
    run.activity run.record
    (run.load.finish (s.releaseSlot.record run.record) .cancelled)
  rw [hleave]
  refine ⟨⟨_, loadTask?_follow (hload.of_turn hrelease) rfl, rfl⟩, ?_, ?_, ?_⟩
  · rw [hfollow, heq]
    exact List.append_nil _
  · rw [hfollow, heq]
    rfl
  · have hlt : run.record < s.releaseSlot.records.length :=
      (hrun.of_turn hrelease).record_lt
    rw [hfollow]
    simp only [Session.record, setRecord, List.getD_eq_getElem?_getD,
      List.getElem?_set_self hlt, Option.getD_some]
    rw [heq]
    rfl

theorem quits_receive (hsound : s.RunsSound) {query : QueryId} {q : SentQuery}
    {asked : QueryId} (hquery : s.queries[query]? = some q)
    (hload : s.loadTask? q.task = some t) (hstate : t.state = .querying run asked)
    (hsuperseded : s.registry.Superseded run.activity) :
    Quits q.task run s (s.receive query) := by
  have hrun := hsound.running q.task t run hload (by rw [hstate]; rfl)
  have houtcome : Turn q.task s ((s.outcomeOf run q).1.setQuery query .ended) :=
    turn_endQuery query
  have hhas : s.HasLoad q.task t := ⟨t, hload, rfl⟩
  have hreceive : s.receive query =
      ((s.outcomeOf run q).1.setQuery query .ended).leave q.task t run
        (s.outcomeOf run q).2 := by
    simp [receive, hquery, hload, hstate]
  have hquits : Quits q.task run ((s.outcomeOf run q).1.setQuery query .ended)
      (s.receive query) := by
    rw [hreceive]
    exact quits_leave (hhas.of_turn houtcome) (hrun.of_turn houtcome)
      (houtcome.registry.superseded _ hsuperseded)
  obtain ⟨clock, registry, queries, ready, heq, hlength⟩ := s.outcomeOf_eq run q
  rw [heq] at hquits
  exact ⟨hquits.complete, hquits.renderings,
    hquits.queries.trans (by simpa [setQuery] using hlength), hquits.record⟩

theorem enter_of_granted (hload : s.loadTask? id = some t)
    (hstate : t.state = .granted run) :
    s.handle (.enter id) = s.enter id t run := by
  simp [handle, hload, hstate]

theorem quits_enter (hsound : s.RunsSound) (hload : s.loadTask? id = some t)
    (hstate : t.state = .granted run)
    (hsuperseded : s.registry.Superseded run.activity)
    (htokens : s.honorsTokens = true) :
    Quits id run s (s.handle (.enter id)) := by
  have hadmits := hsound.running id t run hload (by rw [hstate]; rfl)
  have hcancelled := ActivityRegistry.isCancelled_of_superseded hadmits.begun
    hsuperseded
  have hleave : s.enter id t run =
      s.leave id t run (.error (.query .stopped)) := by
    simp [enter, checkToken, htokens, TokenNetwork.check, hcancelled]
  rw [enter_of_granted hload hstate, hleave]
  exact quits_leave ⟨t, hload, rfl⟩ hadmits hsuperseded

theorem send_of_granted (hload : s.loadTask? id = some t)
    (hstate : t.state = .granted run) (htokens : s.honorsTokens = false) :
    s.handle (.enter id) = s.send id t run := by
  rw [enter_of_granted hload hstate]
  simp [enter, checkToken, htokens]

/-- What the turn of a superseded load comes to: nothing, the end of the load, or
a query that was granted a slot before and is sent, if tokens are not looked
at. -/
theorem handle_superseded (hsound : s.RunsSound) (hload : s.loadTask? id = some t)
    (hrun : t.state.run? = some run)
    (hsuperseded : s.registry.Superseded run.activity) {event : TaskEvent}
    (hevent : s.eventTask? event = some id) (hstart : event ≠ .start id) :
    s.handle event = s ∨ Quits id run s (s.handle event) ∨
      s.honorsTokens = false ∧ s.handle event = s.send id t run := by
  have hnone := groupTask?_of_loadTask? hload
  cases event with
  | start other =>
      obtain rfl : other = id := Option.some.inj hevent
      exact absurd rfl hstart
  | enter other =>
      obtain rfl : other = id := Option.some.inj hevent
      cases hstate : t.state with
      | granted granted =>
          obtain rfl : granted = run := by
            simpa [hstate, LoadTaskState.run?] using hrun
          cases htokens : s.honorsTokens with
          | false =>
              exact .inr (.inr ⟨rfl, send_of_granted hload hstate htokens⟩)
          | true =>
              exact .inr (.inl
                (quits_enter hsound hload hstate hsuperseded htokens))
      | _ => exact .inl (by simp [handle, hload, hstate])
  | receive query =>
      obtain ⟨q, hquery, rfl⟩ := Option.map_eq_some_iff.mp hevent
      cases hstate : t.state with
      | querying asking asked =>
          obtain rfl : asking = run := by simpa [hstate, LoadTaskState.run?] using hrun
          exact .inr (.inl (quits_receive hsound hquery hload hstate hsuperseded))
      | _ => exact .inl (by simp [handle, receive, hquery, hload, hstate])
  | childOver parent fault =>
      obtain rfl : parent = id := Option.some.inj hevent
      exact .inl (by simp [handle, hnone])
  | gathered other =>
      obtain rfl : other = id := Option.some.inj hevent
      exact .inl (by simp [handle, hnone])

theorem loadTask?_send (hload : s.loadTask? id = some t) (run : RunningLoad) :
    ∃ query, (s.send id t run).loadTask? id =
      some { t with state := .querying run query } := by
  obtain ⟨script, registry, queries, ready, heq⟩ := s.send_eq id t run
  rw [heq]
  exact ⟨s.queries.length, loadTask?_setLoad (lt_of_loadTask? hload) _⟩

theorem suspended?_send (hload : s.loadTask? id = some t) :
    (s.send id t run).suspended? id = some run := by
  obtain ⟨query, hsent⟩ := loadTask?_send hload run
  exact suspended?_eq_some.mpr ⟨_, hsent, rfl⟩

/-! ## Turns of others, and of its own -/

theorem suspended?_of_turn {actor : TaskId} (hturn : Turn actor s next)
    (hne : id ≠ actor) (hrun : s.suspended? id = some run) :
    next.suspended? id = some run := by
  rw [suspended?_eq_some] at hrun ⊢
  obtain ⟨t, hload, hstate⟩ := hrun
  obtain ⟨u, hu, _, hidles⟩ := hturn.loads id t hload
  exact ⟨u, hu, (hidles hne).run?_eq.trans hstate⟩

theorem isComplete_of_turn {actor : TaskId} {record : RecordId}
    (hturn : Turn actor s next) (hne : id ≠ actor)
    (hcomplete : s.IsComplete id record) : next.IsComplete id record := by
  obtain ⟨t, hload, hstate⟩ := hcomplete
  obtain ⟨u, hu, _, hidles⟩ := hturn.loads id t hload
  exact ⟨u, hu, (hstate ▸ hidles hne).eq_complete⟩

/-- Every move is the turn of a task, and where it is that of a given task, this
is the one that is next. -/
theorem exists_turn_of_move (hsound : s.Sound) (hmove : s.Move next)
    (id : TaskId) :
    ∃ rest actor, Turn actor { s with ready := rest } next ∧
      (id = actor → s.step? = some next ∧ s.actor? = some id) := by
  -- A task that is not the given one.
  have hother : id ≠ Nat.succ id := (Nat.succ_ne_self id).symm
  by_cases hstep : s.step? = some next
  · obtain ⟨event, rest, hready, hnext⟩ := step?_eq_some hstep
    have hruns := hsound.runs.of_ready rest
    have hactor : s.actor? =
        eventTask? { s with ready := rest } event := by
      simp only [actor?, hready, List.head?_cons, Option.bind_some]
      cases event <;> rfl
    refine ⟨rest, ?_⟩
    rw [hnext]
    cases htask : eventTask? { s with ready := rest } event with
    | none =>
        refine ⟨Nat.succ id, turn_handle hruns ?_, fun heq => absurd heq hother⟩
        simp [htask]
    | some actor =>
        refine ⟨actor, turn_handle hruns ?_, ?_⟩
        · intro other heq
          exact Option.some.inj (heq.symm.trans htask)
        · rintro rfl
          exact ⟨hnext ▸ hstep, hactor.trans htask⟩
  · refine ⟨s.ready, Nat.succ id, ?_, fun heq => absurd heq hother⟩
    exact ((turn_of_move hmove _).resolve_left hstep).1

theorem evolves_of_move (hsound : s.Sound) (hmove : s.Move next) :
    s.registry.Evolves next.registry := by
  obtain ⟨rest, actor, hturn, -⟩ := exists_turn_of_move hsound hmove 0
  exact hturn.registry

theorem evolves_of_leadsTo (hsound : s.Sound) (hleads : s.LeadsTo next) :
    s.registry.Evolves next.registry := by
  induction hleads with
  | refl => exact .refl _
  | tail hbefore hmove ih =>
      exact ih.trans (evolves_of_move (hsound.of_leadsTo hbefore) hmove)

theorem exists_event_of_step (hsound : s.Sound) (hstep : s.step? = some next)
    (hactor : s.actor? = some id) (hload : s.loadTask? id = some t)
    (hstate : t.state ≠ .created) :
    ∃ event rest, s.ready = event :: rest ∧
      eventTask? { s with ready := rest } event = some id ∧ event ≠ .start id ∧
        next = handle { s with ready := rest } event := by
  obtain ⟨event, rest, hready, hnext⟩ := step?_eq_some hstep
  have hevent : s.eventTask? event = some id := by
    simpa [actor?, hready] using hactor
  refine ⟨event, rest, hready, by cases event <;> exact hevent, ?_, hnext⟩
  rintro rfl
  have hpos : 0 < s.ready.count (.start id) := by simp [hready]
  exact hstate (((hsound.starts id).2 hpos).2 t hload)

/-- To a load that is over nothing happens any more. -/
theorem handle_of_over (hload : s.loadTask? id = some t) (hover : t.state.run? = none)
    {event : TaskEvent} (hevent : s.eventTask? event = some id)
    (hstart : event ≠ .start id) : s.handle event = s := by
  have hnone := groupTask?_of_loadTask? hload
  cases event with
  | start other =>
      obtain rfl : other = id := Option.some.inj hevent
      exact absurd rfl hstart
  | enter other =>
      obtain rfl : other = id := Option.some.inj hevent
      simp only [handle, hload]
      split
      · rename_i run hstate
        simp [hstate, LoadTaskState.run?] at hover
      · rfl
  | receive query =>
      obtain ⟨q, hquery, rfl⟩ := Option.map_eq_some_iff.mp hevent
      simp only [handle, receive, hquery, hload]
      split
      · rename_i run asked hstate
        simp [hstate, LoadTaskState.run?] at hover
      · rfl
  | childOver parent fault =>
      obtain rfl : parent = id := Option.some.inj hevent
      simp [handle, hnone]
  | gathered other =>
      obtain rfl : other = id := Option.some.inj hevent
      simp [handle, hnone]

/-! ## From its supersession on -/

/-- A load that has been overtaken: it waits where it did, or is over. -/
structure Overtaken (id : TaskId) (run : RunningLoad) (s : Session) : Prop where
  sound : s.Sound
  admits : s.Admits run
  superseded : s.registry.Superseded run.activity
  stands : s.suspended? id = some run ∨ s.IsComplete id run.record

theorem Overtaken.own_turn (hovertaken : Overtaken id run s)
    (hstep : s.step? = some next) (hactor : s.actor? = some id) :
    ∃ rest, next = { s with ready := rest } ∨
      Quits id run { s with ready := rest } next ∧ s.suspended? id = some run ∨
      s.honorsTokens = false ∧ s.suspended? id = some run ∧
        ∃ t, s.loadTask? id = some t ∧
          next = ({ s with ready := rest } : Session).send id t run := by
  have hsound := hovertaken.sound
  rcases hovertaken.stands with hrun | ⟨t, hload, hstate⟩
  · obtain ⟨t, hload, hstate⟩ := suspended?_eq_some.mp hrun
    obtain ⟨event, rest, _, hevent, hstart, rfl⟩ :=
      exists_event_of_step hsound hstep hactor hload (by
        intro hcreated
        simp [hcreated, LoadTaskState.run?] at hstate)
    have hruns := hsound.runs.of_ready rest
    refine ⟨rest, ?_⟩
    rcases handle_superseded hruns hload hstate hovertaken.superseded hevent
      hstart with hidle | hquits | ⟨htokens, hsend⟩
    · exact .inl hidle
    · exact .inr (.inl ⟨hquits, hrun⟩)
    · exact .inr (.inr ⟨htokens, hrun, t, hload, hsend⟩)
  · obtain ⟨event, rest, _, hevent, hstart, rfl⟩ :=
      exists_event_of_step hsound hstep hactor hload (by simp [hstate])
    have hload' : ({ s with ready := rest } : Session).loadTask? id = some t :=
      hload
    exact ⟨rest, .inl (handle_of_over hload' (by rw [hstate]; rfl) hevent hstart)⟩

theorem Overtaken.move (hovertaken : Overtaken id run s) (hmove : s.Move next) :
    Overtaken id run next := by
  obtain ⟨rest, actor, hturn, hown⟩ := exists_turn_of_move hovertaken.sound hmove id
  have hadmits : ({ s with ready := rest } : Session).Admits run :=
    hovertaken.admits.mono (.refl _) (Nat.le_refl _)
  refine ⟨hovertaken.sound.of_move hmove, hadmits.of_turn hturn,
    hturn.registry.superseded _ hovertaken.superseded, ?_⟩
  by_cases heq : id = actor
  · obtain ⟨hstep, hactor⟩ := hown heq
    obtain ⟨rest, rfl | ⟨hquits, _⟩ | ⟨_, _, t, hload, rfl⟩⟩ :=
      hovertaken.own_turn hstep hactor
    · exact hovertaken.stands
    · exact .inr hquits.complete
    · exact .inl (suspended?_send hload)
  · rcases hovertaken.stands with hrun | hcomplete
    · exact .inl (suspended?_of_turn hturn heq hrun)
    · exact .inr (isComplete_of_turn hturn heq hcomplete)

theorem Overtaken.leadsTo (hovertaken : Overtaken id run s)
    (hleads : s.LeadsTo next) : Overtaken id run next := by
  induction hleads with
  | refl => exact hovertaken
  | tail _ hmove ih => exact ih.move hmove

theorem Overtaken.shows (hovertaken : Overtaken id run s)
    (hstep : s.step? = some next) (hactor : s.actor? = some id) :
    next.renderings = s.renderings := by
  obtain ⟨rest, rfl | ⟨hquits, _⟩ | ⟨_, _, t, _, rfl⟩⟩ :=
    hovertaken.own_turn hstep hactor
  · rfl
  · exact hquits.renderings
  · obtain ⟨script, registry, queries, ready, heq⟩ :=
      send_eq { s with ready := rest } id t run
    rw [heq]
    rfl

theorem Overtaken.ends (hovertaken : Overtaken id run s) (hmove : s.Move next)
    (hrun : s.suspended? id = some run)
    (hended : next.suspended? id ≠ some run) :
    s.step? = some next ∧ s.actor? = some id ∧
      next.IsComplete id run.record ∧
      (next.record run.record).phase = .cancelled ∧
      (next.record run.record).error = (s.record run.record).error ∧
      ((∀ other, ¬ s.IsComplete other run.record) →
        (next.record run.record).error = none) := by
  obtain ⟨_, actor, hturn, hown⟩ :=
    exists_turn_of_move hovertaken.sound hmove id
  by_cases heq : id = actor
  · obtain ⟨hstep, hactor⟩ := hown heq
    obtain ⟨rest, rfl | ⟨hquits, _⟩ | ⟨_, _, t, hload, rfl⟩⟩ :=
      hovertaken.own_turn hstep hactor
    · exact absurd hrun hended
    · have herror : (next.record run.record).error =
          (s.record run.record).error := by
        rw [hquits.record]
        rfl
      refine ⟨hstep, hactor, hquits.complete, by rw [hquits.record], herror, ?_⟩
      intro hnone
      rw [herror]
      -- An error would be that of a load which is over.
      by_cases hsome : (s.record run.record).error = none
      · exact hsome
      · obtain ⟨other, t, hload, hstate⟩ :=
          hovertaken.sound.explained run.record hsome
        exact absurd ⟨t, hload, hstate⟩ (hnone other)
    · exact (hended (suspended?_send hload)).elim
  · exact absurd (suspended?_of_turn hturn heq hrun) hended

theorem Overtaken.enters (hovertaken : Overtaken id run s)
    (hstep : s.step? = some next) (hhead : s.ready.head? = some (.enter id))
    (hload : s.loadTask? id = some t) (hstate : t.state = .granted run) :
    (s.honorsTokens = true → next.IsComplete id run.record) ∧
    (s.honorsTokens = false → ∃ u query, next.loadTask? id = some u ∧
      u.state = .querying run query) := by
  obtain ⟨event, rest, hready, rfl⟩ := step?_eq_some hstep
  obtain rfl : event = .enter id := by simpa [hready] using hhead
  have hruns := hovertaken.sound.runs.of_ready rest
  have hload' : ({ s with ready := rest } : Session).loadTask? id = some t :=
    hload
  constructor
  · intro htokens
    exact (quits_enter hruns hload' hstate hovertaken.superseded htokens).complete
  · intro htokens
    obtain ⟨query, hsent⟩ := loadTask?_send hload' run
    rw [send_of_granted hload' hstate htokens]
    exact ⟨_, query, hsent, rfl⟩

theorem Overtaken.receives (hovertaken : Overtaken id run s) {query : QueryId}
    {asked : QueryId} (hstep : s.step? = some next)
    (hhead : s.ready.head? = some (.receive query))
    (hactor : s.actor? = some id) (hload : s.loadTask? id = some t)
    (hstate : t.state = .querying run asked) :
    next.IsComplete id run.record := by
  obtain ⟨event, rest, hready, hevent, _, rfl⟩ := exists_event_of_step
    hovertaken.sound hstep hactor hload (by simp [hstate])
  obtain rfl : event = .receive query := by simpa [hready] using hhead
  obtain ⟨q, hquery, rfl⟩ := Option.map_eq_some_iff.mp hevent
  have hruns := hovertaken.sound.runs.of_ready rest
  exact (quits_receive hruns hquery hload hstate hovertaken.superseded).complete

end Session

end RequestBreakdown
