import RequestBreakdown.Proofs.Session.Abreast

/-!
# Two loads of one breakdown

A load that has been overtaken may still be under way when the next load of its
breakdown begins, and if the records were not put aside in between both have the same
one.  The first only writes there that it was cancelled.  If it ends before the second
does, nothing is left of that; if it ends afterwards, the record says that the breakdown
was cancelled which the second load has shown.
-/

namespace RequestBreakdown

namespace Session

variable {s next : Session} {first second : TaskId} {run : RunningLoad} {key : Value}
  {activity : Activity} {record : RecordId} {rate : Option Number} {alone later : LoadStep}

/-- Of the loads of a breakdown that there are at the last, all but two are over already. -/
def OnlyLoads (s last : Session) (key : Value) (first second : TaskId) : Prop :=
  ∀ id t, last.loadTask? id = some t → t.order.breakdown.id.name? = some key →
    id = first ∨ id = second ∨ s.HasEnded id

theorem OnlyLoads.of_move {last : Session} (honly : OnlyLoads s next key first second)
    (hsound : last.Sound) (hmove : last.Move next) : OnlyLoads s last key first second := by
  intro id t hload hname
  obtain ⟨rest, actor, hturn, -⟩ := exists_turn_of_move hsound hmove id
  obtain ⟨u, hu, horder, -⟩ := hturn.loads id t hload
  exact honly id u hu (by rw [horder, hname])

theorem OnlyLoads.of_leadsTo {last : Session} (honly : OnlyLoads s next key first second)
    (hsound : last.Sound) (hleads : last.LeadsTo next) :
    OnlyLoads s last key first second := by
  induction hleads with
  | refl => exact honly
  | tail hbefore hmove ih => exact ih (honly.of_move (hsound.of_leadsTo hbefore) hmove)

theorem OnlyLoads.onward {last : Session} (honly : OnlyLoads s last key first second)
    (hsound : s.Sound) (hleads : s.LeadsTo next) :
    OnlyLoads next last key first second := by
  intro id t hload hname
  exact (honly id t hload hname).imp_right (.imp_right (.of_leadsTo hsound hleads))

/-! ## Turns of the first load -/

theorem Overtaken.begun (hovertaken : Overtaken first run s) :
    ∃ t, s.loadTask? first = some t ∧ t.state ≠ .created := by
  rcases hovertaken.stands with hrun | ⟨t, hload, hstate⟩
  · obtain ⟨t, hload, hstate⟩ := suspended?_eq_some.mp hrun
    refine ⟨t, hload, fun hcreated => ?_⟩
    simp [hcreated, LoadTaskState.run?] at hstate
  · exact ⟨t, hload, by simp [hstate]⟩

/-- A load that has been overtaken writes nothing, or that it was cancelled. -/
theorem Overtaken.own_records (hovertaken : Overtaken first run s)
    (hstep : s.step? = some next) (hactor : s.actor? = some first) :
    (next.records = s.records ∧
        (s.suspended? first = some run → next.suspended? first = some run)) ∨
      s.suspended? first = some run ∧
        next.record run.record = { s.record run.record with phase := .cancelled } ∧
        ∀ r, r ≠ run.record → next.record r = s.record r := by
  have hsound := hovertaken.sound
  rcases hovertaken.stands with hrun | ⟨t, hload, hstate⟩
  · obtain ⟨t, hload, hstate⟩ := suspended?_eq_some.mp hrun
    obtain ⟨rest, hcontinues⟩ := continues_of_step hsound hstep hactor hload hstate
    generalize s.reply? first = reply at hcontinues
    cases hcontinues with
    | waits hrecords hstill => exact .inl ⟨hrecords, fun _ => hstill⟩
    | leaves mid reply hturn hrecords hmodes hcurrent hnext =>
        have hhas : ({ s with ready := rest } : Session).HasLoad first t := ⟨t, hload, rfl⟩
        have hadmits : ({ s with ready := rest } : Session).Admits run :=
          hovertaken.admits.mono (.refl _) (Nat.le_refl _)
        have hstale : mid.registry.isCurrent run.activity = false :=
          ActivityRegistry.isCurrent_of_superseded
            (hturn.registry.superseded _ hovertaken.superseded)
        obtain ⟨-, hrecord, hothers⟩ := @leave_stands mid first t run reply.outcome
          (hhas.of_turn hturn) (hadmits.of_turn hturn)
        have hsame := record_congr hrecords
        rw [hstale, Load.resume_of_not_current hadmits.waits, hsame] at hrecord
        rw [hnext]
        exact .inr ⟨hrun, hrecord, fun r hne => (hothers r hne).trans (hsame r)⟩
  · obtain ⟨rest, rfl⟩ := step_of_over hsound hstep hactor hload (by rw [hstate]; rfl)
      (by simp [hstate])
    exact .inl ⟨rfl, id⟩

/-! ## Side by side -/

/-- The first of two loads has been overtaken; the second stands where it would alone, in
the record that is in use for its breakdown if any is. -/
structure SideBySide (first second : TaskId) (run : RunningLoad) (key : Value)
    (activity : Activity) (record : RecordId) (rate : Option Number) (alone : LoadStep)
    (s : Session) : Prop where
  ne : first ≠ second
  overtaken : Overtaken first run s
  keyed : s.Keyed
  begun : s.registry.HasBegun activity
  record_lt : record < s.records.length
  named : (s.record record).breakdownId.name? = some key
  shown : ∀ r, s.shown.lookup key = some r → r = record
  abreast : s.Abreast second activity record rate alone

/-- The first load is still to end, or has ended last. -/
def EndsLate (s : Session) (first : TaskId) (run : RunningLoad) (record : RecordId) : Prop :=
  s.suspended? first = some run ∨ (s.record record).phase = .cancelled

/-- When the second load is over, the record has its phase, or that of the first load. -/
def EndsEither (s : Session) (run : RunningLoad) (record : RecordId) (alone : LoadStep) : Prop :=
  alone.query = none → (s.record record).phase = alone.progress.phase ∨
    run.record = record ∧ (s.record record).phase = .cancelled

/-- What becomes of the phase that the second load leaves: with the first load over
nobody else writes it, and with the second over the first may. -/
structure KeepsPhase (first : TaskId) (run : RunningLoad) (record : RecordId)
    (s : Session) (alone : LoadStep) (next : Session) (later : LoadStep) : Prop where
  complete : s.IsComplete first run.record → next.IsComplete first run.record
  apart : (run.record = record → s.IsComplete first run.record) →
    s.SaysPhase record alone → next.SaysPhase record later
  shared : run.record = record → alone.query = none → s.EndsLate first run record →
    later.query = none ∧ next.EndsLate first run record
  either : s.EndsEither run record alone → next.EndsEither run record later

theorem KeepsPhase.refl (s : Session) (alone : LoadStep) :
    KeepsPhase first run record s alone s alone :=
  ⟨id, fun _ => id, fun _ hquery hlate => ⟨hquery, hlate⟩, id⟩

theorem KeepsPhase.trans {mid : Session} {between : LoadStep}
    (hfirst : KeepsPhase first run record s alone mid between)
    (hthen : KeepsPhase first run record mid between next later) :
    KeepsPhase first run record s alone next later := by
  constructor
  case complete => exact fun hcomplete => hthen.complete (hfirst.complete hcomplete)
  case apart =>
      intro hcomplete hphase
      exact hthen.apart (fun heq => hfirst.complete (hcomplete heq))
        (hfirst.apart hcomplete hphase)
  case shared =>
      intro heq hquery hlate
      obtain ⟨hquery', hlate'⟩ := hfirst.shared heq hquery hlate
      exact hthen.shared heq hquery' hlate'
  case either => exact fun heither => hthen.either (hfirst.either heither)

/-! ## Moves -/

/-- The record stays that of the breakdown, and no other comes into use for it. -/
theorem SideBySide.frame
    (hside : SideBySide first second run key activity record rate alone s)
    (honly : OnlyLoads s s key first second) (hmove : s.Move next) :
    next.Keyed ∧ record < next.records.length ∧
      (next.record record).breakdownId.name? = some key ∧
      ∀ r, next.shown.lookup key = some r → r = record := by
  have hsound := hside.overtaken.sound
  obtain ⟨hkeyed, hmoved⟩ := moved_of_move hsound hside.keyed hmove
  have hwrites : ∃ name, Writes name s next ∧ (some key = name → next.shown = s.shown) := by
    cases hmoved with
    | turn rest actor t hstep hactor hload hturn hwrites =>
        refine ⟨_, hwrites, fun hname => ?_⟩
        have hbegun : ∃ t, s.loadTask? actor = some t ∧ t.state ≠ .created := by
          rcases honly actor t hload hname.symm with rfl | rfl | ⟨u, hu, -, hstate⟩
          · exact hside.overtaken.begun
          · exact hside.abreast.stands.begun
          · exact ⟨u, hu, hstate⟩
        obtain ⟨u, hu, hstate⟩ := hbegun
        exact shown_of_step hsound hstep hactor hu hstate
    | nobody rest hturn hwrites =>
        exact ⟨none, hwrites none, fun hname => absurd hname (by simp)⟩
  obtain ⟨name, hwrites, hshown⟩ := hwrites
  refine ⟨hkeyed, Nat.lt_of_lt_of_le hside.record_lt hwrites.length_le, ?_, ?_⟩
  · rw [hwrites.names record hside.record_lt, hside.named]
  · intro r hlookup
    apply hside.shown r
    by_cases hname : some key = name
    · rwa [← hshown hname]
    · exact hwrites.shown key r hname hlookup

/-- A move that is not the turn of the second load leaves its record as it is, or the
first load writes there that it was cancelled. -/
theorem SideBySide.record_of_other
    (hside : SideBySide first second run key activity record rate alone s)
    (honly : OnlyLoads s s key first second) (hmove : s.Move next)
    (hother : s.step? = some next → s.actor? ≠ some second) :
    next.record record = s.record record ∧
        (run.record = record → s.suspended? first = some run →
          next.suspended? first = some run) ∨
      s.suspended? first = some run ∧ run.record = record ∧
        next.record record = { s.record record with phase := .cancelled } := by
  have hsound := hside.overtaken.sound
  by_cases hfirst : s.step? = some next ∧ s.actor? = some first
  · rcases hside.overtaken.own_records hfirst.1 hfirst.2 with
      ⟨hrecords, hstill⟩ | ⟨hrun, hcancelled, hothers⟩
    · exact .inl ⟨record_congr hrecords record, fun _ => hstill⟩
    · by_cases heq : run.record = record
      · rw [heq] at hcancelled
        exact .inr ⟨hrun, heq, hcancelled⟩
      · exact .inl ⟨hothers record (Ne.symm heq), fun h => absurd h heq⟩
  · left
    cases (moved_of_move hsound hside.keyed hmove).2 with
    | turn rest actor t hstep hactor hload hturn hwrites =>
        have hne : first ≠ actor := by
          rintro rfl
          exact hfirst ⟨hstep, hactor⟩
        by_cases hname : t.order.breakdown.id.name? = some key
        · rcases honly actor t hload hname with rfl | rfl | ⟨u, hu, hended, hbegun⟩
          · exact absurd rfl hne
          · exact absurd hactor (hother hstep)
          · obtain ⟨rest, rfl⟩ := step_of_over hsound hstep hactor hu hended hbegun
            exact ⟨rfl, fun _ hrun => hrun⟩
        · refine ⟨hwrites.others record hside.record_lt ?_, fun _ hrun => ?_⟩
          · rw [hside.named]
            exact Ne.symm hname
          · exact suspended?_of_turn (s := { s with ready := rest }) hturn hne hrun
    | nobody rest hturn hwrites =>
        refine ⟨(hwrites none).others record hside.record_lt (by simp [hside.named]),
          fun _ hrun => ?_⟩
        exact suspended?_of_turn (s := { s with ready := rest }) (hturn (Nat.succ first))
          (Nat.succ_ne_self first).symm hrun

theorem SideBySide.complete_of_move
    (hside : SideBySide first second run key activity record rate alone s)
    (hmove : s.Move next) (hcomplete : s.IsComplete first run.record) :
    next.IsComplete first run.record :=
  state_of_move hside.overtaken.sound rfl (by simp) hmove hcomplete

theorem SideBySide.of_other
    (hside : SideBySide first second run key activity record rate alone s)
    (honly : OnlyLoads s s key first second) (hmove : s.Move next)
    (hother : s.step? = some next → s.actor? ≠ some second) :
    SideBySide first second run key activity record rate alone next ∧
      KeepsPhase first run record s alone next alone := by
  obtain ⟨hkeyed, hlt, hnamed, hshown⟩ := hside.frame honly hmove
  obtain ⟨rest, actor, hturn, hown⟩ :=
    exists_turn_of_move hside.overtaken.sound hmove second
  have hne : second ≠ actor := by
    intro heq
    obtain ⟨hstep, hactor⟩ := hown heq
    exact hother hstep hactor
  have hrecord := hside.record_of_other honly hmove hother
  have habreast : next.Abreast second activity record rate alone := by
    refine ⟨hside.abreast.stands.of_turn hturn hne, ?_⟩
    rcases hrecord with ⟨hsame, -⟩ | ⟨-, -, hcancelled⟩
    · rw [hsame]
      exact hside.abreast.progress
    · rw [hcancelled]
      exact hside.abreast.progress.withPhase alone.progress.phase .cancelled
  have hkeeps : KeepsPhase first run record s alone next alone := by
    constructor
    case complete => exact hside.complete_of_move hmove
    case apart =>
        intro hcomplete hphase hquery
        rcases hrecord with ⟨hsame, -⟩ | ⟨hrun, heq, -⟩
        · rw [hsame]
          exact hphase hquery
        · exact absurd (hcomplete heq) (not_isComplete_of_suspended? hrun)
    case shared =>
        intro heq hquery hlate
        refine ⟨hquery, ?_⟩
        rcases hrecord with ⟨hsame, hstill⟩ | ⟨-, -, hcancelled⟩
        · rcases hlate with hrun | hphase
          · exact .inl (hstill heq hrun)
          · exact .inr (by rw [hsame, hphase])
        · exact .inr (by rw [hcancelled])
    case either =>
        intro heither hquery
        rcases hrecord with ⟨hsame, -⟩ | ⟨-, heq, hcancelled⟩
        · rw [hsame]
          exact heither hquery
        · exact .inr ⟨heq, by rw [hcancelled]⟩
  exact ⟨⟨hside.ne, hside.overtaken.move hmove, hkeyed, hturn.registry.begun _ hside.begun,
    hlt, hnamed, hshown, habreast⟩, hkeeps⟩

theorem SideBySide.of_own_turn
    (hside : SideBySide first second run key activity record rate alone s)
    (honly : OnlyLoads s s key first second) (hstep : s.step? = some next)
    (hactor : s.actor? = some second) :
    SideBySide first second run key activity record rate
        (alone.run (s.reply? second).toList) next ∧
      KeepsPhase first run record s alone next (alone.run (s.reply? second).toList) ∧
      (next.registry.isCurrent activity = true →
        ∀ reply, s.reply? second = some reply → reply.current = true) := by
  have hsound := hside.overtaken.sound
  have hmove : s.Move next := .step hstep
  obtain ⟨hkeyed, hlt, hnamed, hshown⟩ := hside.frame honly hmove
  have hovertaken := hside.overtaken.move hmove
  have hbegun := (evolves_of_move hsound hmove).begun _ hside.begun
  have hcomplete := hside.complete_of_move hmove
  cases hquery : alone.query with
  | none =>
      obtain ⟨hreply, rest, rfl⟩ := hside.abreast.own_turn_over hquery hsound hstep hactor
      rw [hreply]
      have hkeeps : KeepsPhase first run record s alone { s with ready := rest } alone := by
        constructor
        case complete => exact hcomplete
        case apart => exact fun _ hphase => hphase
        case shared => exact fun _ _ hlate => ⟨hquery, hlate⟩
        case either => exact fun heither => heither
      exact ⟨⟨hside.ne, hovertaken, hkeyed, hbegun, hlt, hnamed, hshown,
        hside.abreast.stands, hside.abreast.progress⟩, hkeeps,
        fun _ _ hnone => absurd hnone (by simp)⟩
  | some query =>
      obtain ⟨habreast, hphase, hcurrent⟩ :=
        hside.abreast.own_turn_waiting hquery hsound hstep hactor
      have hkeeps : KeepsPhase first run record s alone next
          (alone.run (s.reply? second).toList) := by
        constructor
        case complete => exact hcomplete
        case apart => exact fun _ _ => hphase
        case shared => exact fun _ hnone => absurd hnone (by simp [hquery])
        case either => exact fun _ hnone => .inl (hphase hnone)
      exact ⟨⟨hside.ne, hovertaken, hkeyed, hbegun, hlt, hnamed, hshown, habreast⟩, hkeeps,
        hcurrent⟩

/-- Two loads side by side go on so, the second as it would alone. -/
theorem SideBySide.hears {replies : List Reply}
    (hside : SideBySide first second run key activity record rate alone s)
    (hhears : Hears second replies s next) (honly : OnlyLoads s next key first second) :
    SideBySide first second run key activity record rate (alone.run replies) next ∧
      KeepsPhase first run record s alone next (alone.run replies) ∧
      (next.registry.isCurrent activity = true →
        ∀ reply ∈ replies, reply.current = true) := by
  induction hhears with
  | nothing => exact ⟨hside, .refl _ _, fun _ => by simp⟩
  | @step replies s mid next hhears hstep ih =>
      have hmove : mid.Move next := .step hstep
      have hsound := hside.overtaken.sound.of_leadsTo hhears.leadsTo
      have honly' := honly.of_move hsound hmove
      have hhere := honly'.onward hside.overtaken.sound hhears.leadsTo
      obtain ⟨hmid, hkeeps, hcurrent⟩ := ih hside honly'
      have hevolves := evolves_of_move hsound hmove
      have hrun : alone.run (replies ++ (mid.reply? second).toList) =
          (alone.run replies).run (mid.reply? second).toList := List.foldl_append
      have hturn : SideBySide first second run key activity record rate
            ((alone.run replies).run (mid.reply? second).toList) next ∧
          KeepsPhase first run record mid (alone.run replies) next
            ((alone.run replies).run (mid.reply? second).toList) ∧
          (next.registry.isCurrent activity = true →
            ∀ reply, mid.reply? second = some reply → reply.current = true) := by
        by_cases hactor : mid.actor? = some second
        · exact hmid.of_own_turn hhere hstep hactor
        · rw [reply?_of_actor hactor]
          obtain ⟨hnext, hkeeps'⟩ := hmid.of_other hhere hmove fun _ => hactor
          exact ⟨hnext, hkeeps', fun _ _ hreply => absurd hreply (by simp)⟩
      obtain ⟨hnext, hkeeps', hcurrent'⟩ := hturn
      rw [hrun]
      refine ⟨hnext, hkeeps.trans hkeeps', fun hlatest reply hreply => ?_⟩
      rcases List.mem_append.mp hreply with hold | hnew
      · exact hcurrent (hevolves.isCurrent hmid.begun hlatest) reply hold
      · exact hcurrent' hlatest reply (Option.mem_toList.mp hnew)
  | @move replies s mid next hhears hmove hother ih =>
      have hsound := hside.overtaken.sound.of_leadsTo hhears.leadsTo
      have honly' := honly.of_move hsound hmove
      have hhere := honly'.onward hside.overtaken.sound hhears.leadsTo
      obtain ⟨hmid, hkeeps, hcurrent⟩ := ih hside honly'
      obtain ⟨hnext, hkeeps'⟩ :=
        hmid.of_other hhere hmove fun hstep => absurd hstep hother
      exact ⟨hnext, hkeeps.trans hkeeps', fun hlatest =>
        hcurrent ((evolves_of_move hsound hmove).isCurrent hmid.begun hlatest)⟩

/-! ## From the beginning of the second load to the end of both -/

theorem SideBySide.of_start {t : LoadTask} (hovertaken : Overtaken first run s)
    (hkeyed : s.Keyed) (hload : s.loadTask? second = some t)
    (hname : t.order.breakdown.id.name? = some key)
    (hhead : s.ready.head? = some (.start second)) (hstep : s.step? = some next) :
    (∃ u fault, next.loadTask? second = some u ∧ u.state = .failed fault) ∨
      ∃ ordered activity record alone,
        Begins s second t.order ordered activity record alone next ∧
          SideBySide first second run key activity record (s.record record).sampleRate
            alone next := by
  have hsound := hovertaken.sound
  have hmove : s.Move next := .step hstep
  have hkeyed' := (moved_of_move hsound hkeyed hmove).1
  have hovertaken' := hovertaken.move hmove
  obtain ⟨event, rest, hready, rfl⟩ := step?_eq_some hstep
  obtain rfl : event = .start second := by simpa [hready] using hhead
  have hne : first ≠ second := by
    rintro rfl
    obtain ⟨u, hu, hbegun⟩ := hovertaken.begun
    have hpos : 0 < s.ready.count (.start first) := by simp [hready]
    exact hbegun (((hsound.starts first).2 hpos).2 u hu)
  have hload' : ({ s with ready := rest } : Session).loadTask? second = some t := hload
  have hhandle : handle { s with ready := rest } (.start second) =
      ({ s with ready := rest } : Session).startLoad second t := by
    simp only [handle, loadTask?_eq_some.mp hload]
  rw [hhandle] at hkeyed' hovertaken' ⊢
  rcases startLoad_cases (hsound.runs.of_ready rest) hload' with
    hfailed | ⟨_, activity, record, alone, hbegins⟩
  · exact .inl hfailed
  · obtain ⟨ordered, hbegins⟩ := hbegins.of_ready
    obtain ⟨other, hother, hshown⟩ := hbegins.shown
    obtain rfl : other = key := Option.some.inj (hother.symm.trans hname)
    obtain ⟨hlt, hnamed⟩ := hkeyed'.shown other record hshown
    exact .inr ⟨ordered, activity, record, alone, hbegins, hne, hovertaken', hkeyed',
      hbegins.evolves.begun _ hbegins.begun, hlt, hnamed,
      fun r hr => Option.some.inj (hr.symm.trans hshown), hbegins.abreast⟩

/-- The second load leaves what it would alone, but for the rate of an earlier load as long
as it shows no table.  Its phase stays as well if the first load ends before it, or has a
record of its own; if the first load ends after it in the same record, that says that
it was cancelled.  A second load that is not overtaken itself hears at every query that
it is current, as it would alone. -/
theorem overlapping_loads {overtaken started mid last : Session} {t : LoadTask}
    {before after : List Reply} (hreachable : overtaken.Reachable)
    (hrun : overtaken.suspended? first = some run)
    (hsuperseded : overtaken.registry.Superseded run.activity)
    (hleads : overtaken.LeadsTo s) (hload : s.loadTask? second = some t)
    (hname : t.order.breakdown.id.name? = some key)
    (hhead : s.ready.head? = some (.start second)) (hstep : s.step? = some started)
    (hbefore : Hears second before started mid) (hafter : Hears second after mid last)
    (honly : OnlyLoads s last key first second)
    (hfirst : last.IsComplete first run.record) (hsecond : last.IsComplete second record) :
    ∃ ordered newer begun, s.activityFor t.order = .ok (ordered, newer) ∧
      s.beginAlone t.order (ordered.registry.isCurrent newer) = .ok begun ∧
      (last.registry.isCurrent newer = true → ordered.registry.isCurrent newer = true ∧
        ∀ reply ∈ before ++ after, reply.current = true) ∧
      let alone := begun.run (before ++ after)
      alone.query = none ∧
      alone.progress.Alike (s.record record).sampleRate (last.record record) ∧
      (∀ r, last.shown.lookup key = some r → r = record) ∧
      ((last.record record).phase = alone.progress.phase ∨
        run.record = record ∧ (last.record record).phase = .cancelled) ∧
      (run.record ≠ record ∨
          mid.IsComplete first run.record ∧ ¬ mid.IsComplete second record →
        (last.record record).phase = alone.progress.phase) ∧
      (run.record = record → mid.IsComplete second record →
          ¬ mid.IsComplete first run.record →
        (last.record record).phase = .cancelled) := by
  have hsound := hreachable.sound
  obtain ⟨u, hu, hstate⟩ := suspended?_eq_some.mp hrun
  have hovertaken : Overtaken first run overtaken :=
    ⟨hsound, hsound.runs.running first u run hu hstate, hsuperseded, .inl hrun⟩
  have hkeyed := hreachable.keyed.leadsTo hsound hleads
  have hstarted := (hovertaken.leadsTo hleads).sound.of_move (.step hstep)
  have hmidway := hstarted.of_leadsTo hbefore.leadsTo
  have honly' := honly.onward (hovertaken.leadsTo hleads).sound (.single (.step hstep))
  rcases SideBySide.of_start (hovertaken.leadsTo hleads) hkeyed hload hname hhead hstep with
    ⟨v, fault, hv, hfailed⟩ | ⟨ordered, newer, made, begun, hbegins, hside⟩
  · -- A load that has failed would not be complete at the end.
    obtain ⟨w, hw, hcomplete⟩ := hsecond
    obtain ⟨w', hw', hfailed'⟩ := state_of_leadsTo hstarted rfl (by simp)
      (hbefore.leadsTo.trans hafter.leadsTo) ⟨v, hv, hfailed⟩
    obtain rfl := Option.some.inj (hw.symm.trans hw')
    exact absurd (hcomplete.symm.trans hfailed') (by simp)
  · obtain ⟨hmid, hkeeps, hcurrent⟩ :=
      hside.hears hbefore (honly'.of_leadsTo hmidway hafter.leadsTo)
    obtain ⟨hlast, hkeeps', hcurrent'⟩ :=
      hmid.hears hafter (honly'.onward hstarted hbefore.leadsTo)
    obtain ⟨hquery, rfl⟩ := hlast.abreast.stands.of_isComplete hsecond
    have hevolves := evolves_of_leadsTo hstarted hbefore.leadsTo
    have hevolves' := evolves_of_leadsTo hmid.overtaken.sound hafter.leadsTo
    have hreplies : begun.run (before ++ after) = (begun.run before).run after :=
      List.foldl_append
    refine ⟨ordered, newer, begun, hbegins.under, hbegins.begins, ?_, ?_⟩
    · intro hlatest
      have hbetween := hevolves'.isCurrent hmid.begun hlatest
      refine ⟨(hbegins.evolves.trans hevolves).isCurrent hbegins.begun hbetween, ?_⟩
      intro reply hreply
      rcases List.mem_append.mp hreply with hearly | hlate
      · exact hcurrent hbetween reply hearly
      · exact hcurrent' hlatest reply hlate
    dsimp only
    rw [hreplies]
    have hkept := hkeeps.trans hkeeps'
    refine ⟨hquery, hlast.abreast.progress, hlast.shown,
      hkept.either (fun hnone => .inl (hbegins.phase hnone)) hquery, ?_, ?_⟩
    · rintro (hne | ⟨hcomplete, hnot⟩)
      · exact hkept.apart (fun heq => absurd heq hne) hbegins.phase hquery
      · have hwaiting : mid.SaysPhase made (begun.run before) := fun hnone =>
          absurd (hmid.abreast.stands.isComplete hnone) hnot
        exact hkeeps'.apart (fun _ => hcomplete) hwaiting hquery
    · intro heq hcomplete hnot
      obtain ⟨hnone, -⟩ := hmid.abreast.stands.of_isComplete hcomplete
      have hwaits := hmid.overtaken.stands.resolve_right hnot
      obtain ⟨-, hlate⟩ := hkeeps'.shared heq hnone (.inl hwaits)
      exact hlate.resolve_left fun hstill => not_isComplete_of_suspended? hstill hfirst

/-! ## The hosts, loaded twice -/

def hostsOrder : LoadOrder where
  breakdown := { id := "breakdown-hosts", title := "Hosts", dimension := .expression "host" }
  filters := []
  window := ⟨⟨0, none⟩, ⟨5, none⟩⟩
  scope := "facets"

def hosts : Session where
  planner := ⟨.clause, .text "requests"⟩
  now := ⟨9, none⟩
  breakdowns := []
  topN := .int 5
  limiter := { capacity := 2 }

/-- The first load has sent its query. -/
def hostsAsked : Session := settleWithin 2 (hosts.addLoad hostsOrder).1

def hostsNewer : Activity := ⟨"facets", 2, 1⟩

/-- A newer activity has begun in the scope of the first load. -/
def hostsOvertaken : Session :=
  { hostsAsked with
    registry := { latest := [hostsNewer], network := { tokens := [⟨true, []⟩, {}] } } }

def hostsOrdered : Session := (hostsOvertaken.addLoad hostsOrder).1

def hostsStarted : Session := settleWithin 1 hostsOrdered

/-- The second load has sent its query as well. -/
def hostsWaiting : Session := settleWithin 1 hostsStarted

/-- A query has its answer, without any rows. -/
def hostsAnswer (s : Session) (query : Int) : Session :=
  (s.answer (.int query) {}).toOption.getD s

/-- The second load has shown its table. -/
def hostsShown : Session := settleWithin 1 (hostsAnswer hostsWaiting 1)

/-- The first load is over too. -/
def hostsLast : Session := settleWithin 1 (hostsAnswer hostsShown 0)

def hostsBefore : List Reply :=
  repliesWithin 1 1 hostsStarted ++ repliesWithin 1 1 (hostsAnswer hostsWaiting 1)

def hostsAfter : List Reply := repliesWithin 1 1 (hostsAnswer hostsShown 0)

theorem startActivity_hostsAsked :
    hostsAsked.startActivity "facets" = .ok (hostsOvertaken, hostsNewer) := by
  let before : ActivityRegistry QueryId :=
    { latest := [⟨"facets", 1, 0⟩], network := { tokens := [{}] } }
  have hasked : hostsAsked.registry = before := by decide +kernel
  have hscope : ActivityRegistry.scopeOf "facets" = .ok "facets" := by decide +kernel
  have hlatest : before.latestIn? "facets" = some ⟨"facets", 1, 0⟩ := by decide +kernel
  have hcancel : before.network.cancel 0 = { tokens := [⟨true, []⟩] } :=
    TokenNetwork.cancel_of_silent rfl
  have hstart : before.start "facets" = .ok (hostsOvertaken.registry, hostsNewer) := by
    unfold ActivityRegistry.start ActivityRegistry.startIn
    rw [hscope]
    simp only [Except.map, hlatest, hcancel]
    rfl
  unfold startActivity
  rw [hasked, hstart]
  rfl

theorem reachable_hostsOvertaken : hostsOvertaken.Reachable := by
  refine ⟨hosts, ⟨rfl, rfl, rfl, rfl, rfl⟩, ?_⟩
  have hordered : hosts.Move (hosts.addLoad hostsOrder).1 :=
    .order hosts hostsOrder (by simp [hostsOrder])
  have hasked : (hosts.addLoad hostsOrder).1.LeadsTo hostsAsked :=
    leadsTo_settleWithin 2 _
  have heffect : hostsAsked.applyEffect (.startActivity "facets") = .ok hostsOvertaken := by
    simp only [applyEffect, startActivity_hostsAsked]
    rfl
  exact (hasked.head hordered).tail (.effect heffect)

theorem leadsTo_hostsOrdered : hostsOvertaken.LeadsTo hostsOrdered :=
  .single (.order hostsOvertaken hostsOrder (by simp [hostsOrder]))

theorem exists_hostsRun : ∃ run, hostsOvertaken.suspended? 0 = some run ∧ run.record = 0 ∧
    hostsOvertaken.registry.Superseded run.activity := by
  have hcheck : ((hostsOvertaken.suspended? 0).any fun run => run.record == 0 &&
      (hostsOvertaken.registry.latestIn? run.activity.scope).any fun newer =>
        run.activity.generation < newer.generation) = true := by
    decide +kernel
  obtain ⟨run, hrun, hcheck⟩ := (Option.any_eq_true _ _).mp hcheck
  obtain ⟨hrecord, hcheck⟩ := Bool.and_eq_true_iff.mp hcheck
  obtain ⟨newer, hnewer, hlt⟩ := (Option.any_eq_true _ _).mp hcheck
  exact ⟨run, hrun, eq_of_beq hrecord, newer, hnewer, of_decide_eq_true hlt⟩

theorem step?_hostsOrdered : hostsOrdered.step? = some hostsStarted := by
  unfold hostsStarted settleWithin
  have hsome : hostsOrdered.step?.isSome = true := by decide +kernel
  obtain ⟨next, hnext⟩ := Option.isSome_iff_exists.mp hsome
  simp only [hnext, settleWithin]

theorem answer_eq_hostsAnswer {query : Int}
    (hsome : (s.answer (.int query) {}).toOption.isSome = true) :
    s.answer (.int query) {} = .ok (hostsAnswer s query) := by
  unfold hostsAnswer
  cases hanswer : s.answer (.int query) {} with
  | error fault => exact absurd hsome (by simp [hanswer, Except.toOption])
  | ok next => rfl

theorem hears_hostsAnswer {query : Int} (hready : s.ready = [])
    (hsome : (s.answer (.int query) {}).toOption.isSome = true) :
    Hears 1 (repliesWithin 1 1 (hostsAnswer s query)) s
      (settleWithin 1 (hostsAnswer s query)) :=
  (hears_answer hready (answer_eq_hostsAnswer hsome)).trans
    (hears_settleWithin 1 1 (hostsAnswer s query))

theorem hears_hostsBefore : Hears 1 hostsBefore hostsStarted hostsShown :=
  (hears_settleWithin 1 1 hostsStarted).trans
    (hears_hostsAnswer (by decide +kernel) (by decide +kernel))

theorem hears_hostsAfter : Hears 1 hostsAfter hostsShown hostsLast :=
  hears_hostsAnswer (by decide +kernel) (by decide +kernel)

theorem onlyLoads_hostsLast : OnlyLoads hostsOrdered hostsLast "breakdown-hosts" 0 1 := by
  intro id t hload _
  have hlength : hostsLast.tasks.length = 2 := by decide +kernel
  have hlt := lt_of_loadTask? hload
  rw [hlength] at hlt
  have hid : id = 0 ∨ id = 1 := Nat.le_one_iff_eq_zero_or_eq_one.mp (Nat.lt_succ_iff.mp hlt)
  exact hid.imp_right .inl

theorem activityFor_hostsOrdered :
    hostsOrdered.activityFor hostsOrder = .ok (hostsOrdered, hostsNewer) := by
  have hcurrent : hostsOrdered.registry.current? hostsOrder.scope = .ok (some hostsNewer) := by
    decide +kernel
  exact bind_eq_ok.mpr ⟨some hostsNewer, hcurrent, rfl⟩

/-- The first load ends last, and the record says that the hosts were cancelled. -/
theorem overlapping_loads_hosts :
    ∃ run ordered newer begun, hostsOvertaken.suspended? 0 = some run ∧
      hostsOrdered.activityFor hostsOrder = .ok (ordered, newer) ∧
      hostsOrdered.beginAlone hostsOrder (ordered.registry.isCurrent newer) = .ok begun ∧
      (begun.run (hostsBefore ++ hostsAfter)).query = none ∧
      (hostsLast.record 0).phase = .cancelled := by
  obtain ⟨run, hrun, hrecord, hsuperseded⟩ := exists_hostsRun
  have hfirst : hostsLast.IsComplete 0 run.record := by
    rw [hrecord]
    decide +kernel
  have hnot : ¬ hostsShown.IsComplete 0 run.record := by
    rw [hrecord]
    decide +kernel
  have hload : hostsOrdered.loadTask? 1 = some { order := hostsOrder } := by decide +kernel
  have hname : hostsOrder.breakdown.id.name? = some (.text "breakdown-hosts") := by
    decide +kernel
  have hhead : hostsOrdered.ready.head? = some (.start 1) := by decide +kernel
  have hsecond : hostsLast.IsComplete 1 0 := by decide +kernel
  have hshown : hostsShown.IsComplete 1 0 := by decide +kernel
  obtain ⟨ordered, newer, begun, hunder, hbegins, -, hquery, -, -, -, -, hlate⟩ :=
    overlapping_loads reachable_hostsOvertaken hrun hsuperseded leadsTo_hostsOrdered hload
      hname hhead step?_hostsOrdered hears_hostsBefore hears_hostsAfter onlyLoads_hostsLast
      hfirst hsecond
  exact ⟨run, ordered, newer, begun, hrun, hunder, hbegins, hquery,
    hlate hrecord hshown hnot⟩

theorem stale_load_cancels_hosts :
    ∃ run begun, hostsOvertaken.Reachable ∧
      hostsOvertaken.suspended? 0 = some run ∧
      hostsOvertaken.registry.Superseded run.activity ∧
      hostsOvertaken.LeadsTo hostsOrdered ∧
      hostsOrdered.ready.head? = some (.start 1) ∧
      hostsOrdered.step? = some hostsStarted ∧
      Hears 1 (hostsBefore ++ hostsAfter) hostsStarted hostsLast ∧
      OnlyLoads hostsOrdered hostsLast "breakdown-hosts" 0 1 ∧
      hostsLast.IsComplete 0 run.record ∧ hostsLast.IsComplete 1 0 ∧
      hostsOrdered.activityFor hostsOrder = .ok (hostsOrdered, hostsNewer) ∧
      hostsLast.registry.isCurrent hostsNewer = true ∧
      hostsOrdered.beginAlone hostsOrder true = .ok begun ∧
      (begun.run (hostsBefore ++ hostsAfter)).progress.phase = .settled ∧
      hostsLast.shown.lookup (.text "breakdown-hosts") = some 0 ∧
      (hostsLast.record 0).phase = .cancelled := by
  obtain ⟨run, hrun, hrecord, hsuperseded⟩ := exists_hostsRun
  have halone : (hostsOrdered.beginAlone hostsOrder true).toOption.any (fun begun =>
      (begun.run (hostsBefore ++ hostsAfter)).progress.phase = .settled) = true := by
    decide +kernel
  obtain ⟨begun, hbegun, hsettled⟩ := (Option.any_eq_true _ _).mp halone
  have hbegin : hostsOrdered.beginAlone hostsOrder true = .ok begun := by
    cases hbegin : hostsOrdered.beginAlone hostsOrder true with
    | error fault => simp [hbegin, Except.toOption] at hbegun
    | ok step => simpa [hbegin, Except.toOption] using hbegun
  have hfirst : hostsLast.IsComplete 0 run.record := by
    rw [hrecord]
    decide +kernel
  exact ⟨run, begun, reachable_hostsOvertaken, hrun, hsuperseded, leadsTo_hostsOrdered,
    by decide +kernel, step?_hostsOrdered, hears_hostsBefore.trans hears_hostsAfter,
    onlyLoads_hostsLast, hfirst, by decide +kernel, activityFor_hostsOrdered,
    by decide +kernel, hbegin, of_decide_eq_true hsettled, by decide +kernel,
    by decide +kernel⟩

end Session

end RequestBreakdown
