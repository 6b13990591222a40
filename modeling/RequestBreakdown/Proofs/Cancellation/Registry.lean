import RequestBreakdown.Cancellation.Activity
import RequestBreakdown.Proofs.Cancellation.Network
import RequestBreakdown.Proofs.Value.Sameness

/-!
# Superseded activities

The generations of a scope grow, and an activity is never given up but for a
newer one: an activity that has begun is the latest of its scope, or there is a
newer one and its token is cancelled.  Both stay as they are whatever happens to
the registry afterwards.
-/

namespace RequestBreakdown

namespace ActivityRegistry

variable {α : Type} {r : ActivityRegistry α}

/-! ## The latest activities -/

theorem latestIn?_congr {scope other : Value} (hsame : scope.same other = true) :
    r.latestIn? scope = r.latestIn? other := by
  unfold latestIn?
  congr 1
  funext a
  rw [Bool.eq_iff_iff]
  constructor
  · exact fun h => Value.same_trans h hsame
  · exact fun h => Value.same_trans h (Value.same_symm hsame)

theorem scope_same_of_latestIn? {scope : Value} {a : Activity}
    (hlatest : r.latestIn? scope = some a) : a.scope.same scope = true := by
  unfold latestIn? at hlatest
  exact List.find?_some (p := fun b : Activity => b.scope.same scope) hlatest

theorem find?_replaceLatest_of_same {latest : List Activity} {a : Activity}
    {scope : Value} (hsame : a.scope.same scope = true) :
    (replaceLatest latest a).find? (·.scope.same scope) = some a := by
  have hnone : (latest.filter fun b => !b.scope.same a.scope).find?
      (·.scope.same scope) = none := by
    rw [List.find?_eq_none]
    intro b hmem hb
    have hother := (List.mem_filter.mp hmem).2
    have hagain := Value.same_trans hb (Value.same_symm hsame)
    simp [hagain] at hother
  rw [replaceLatest, List.find?_append, hnone]
  simp [hsame]

theorem find?_replaceLatest_of_not_same {latest : List Activity} {a : Activity}
    {scope : Value} (hsame : a.scope.same scope = false) :
    (replaceLatest latest a).find? (·.scope.same scope) =
      latest.find? (·.scope.same scope) := by
  have hfilter : (latest.filter fun b => !b.scope.same a.scope).find?
      (·.scope.same scope) = latest.find? (·.scope.same scope) := by
    rw [List.find?_filter]
    congr 1
    funext b
    cases hb : b.scope.same scope with
    | false => simp
    | true =>
        cases hother : b.scope.same a.scope with
        | false => simp
        | true =>
            have hagain := Value.same_trans (Value.same_symm hother) hb
            rw [hagain] at hsame
            exact absurd hsame (by decide)
  rw [replaceLatest, List.find?_append, hfilter]
  simp [hsame]

/-! ## What stays -/

/-- A newer activity has begun in the scope. -/
def Superseded (r : ActivityRegistry α) (a : Activity) : Prop :=
  ∃ newer, r.latestIn? a.scope = some newer ∧ a.generation < newer.generation

/-- An activity that has begun is the latest of its scope, or it is superseded and
cancelled.  The latest one has a token that there is.  Nothing is known in a
scope that is not even the same as itself, since it is never found again. -/
def HasBegun (r : ActivityRegistry α) (a : Activity) : Prop :=
  a.scope.same a.scope = true →
    ∃ latest, r.latestIn? a.scope = some latest ∧
      latest.token < r.network.tokens.length ∧
      (a.generation = latest.generation ∧ a.token = latest.token ∨
        a.generation < latest.generation ∧
          r.network.isCancelled a.token = true)

/-- The latest activities have tokens that there are. -/
def WellFormed (r : ActivityRegistry α) : Prop :=
  ∀ scope a, r.latestIn? scope = some a → a.token < r.network.tokens.length

structure Evolves (r q : ActivityRegistry α) : Prop where
  wellFormed : r.WellFormed → q.WellFormed
  begun : ∀ a, r.HasBegun a → q.HasBegun a
  superseded : ∀ a, r.Superseded a → q.Superseded a

theorem Evolves.refl (r : ActivityRegistry α) : r.Evolves r :=
  ⟨id, fun _ h => h, fun _ h => h⟩

theorem Evolves.trans {q p : ActivityRegistry α} (hfirst : r.Evolves q)
    (hthen : q.Evolves p) : r.Evolves p :=
  ⟨fun h => hthen.wellFormed (hfirst.wellFormed h),
    fun a h => hthen.begun a (hfirst.begun a h),
    fun a h => hthen.superseded a (hfirst.superseded a h)⟩

theorem isCurrent_of_superseded {a : Activity} (hsuperseded : r.Superseded a) :
    r.isCurrent a = false := by
  obtain ⟨newer, hlatest, hlt⟩ := hsuperseded
  simp only [isCurrent, hlatest, beq_eq_false_iff_ne]
  omega

theorem isCancelled_of_superseded {a : Activity} (hbegun : r.HasBegun a)
    (hsuperseded : r.Superseded a) : r.network.isCancelled a.token = true := by
  obtain ⟨newer, hnewer, hlt⟩ := hsuperseded
  have hsame := scope_same_of_latestIn? hnewer
  have hself := Value.same_trans (Value.same_symm hsame) hsame
  obtain ⟨latest, hlatest, _, hcase⟩ := hbegun hself
  obtain rfl : newer = latest := by
    rw [hnewer] at hlatest
    exact Option.some.inj hlatest
  rcases hcase with ⟨hgeneration, _⟩ | ⟨_, hcancelled⟩
  · omega
  · exact hcancelled

/-- What is current has been so since it began. -/
theorem Evolves.isCurrent {q : ActivityRegistry α} (hevolves : r.Evolves q) {a : Activity}
    (hbegun : r.HasBegun a) (hcurrent : q.isCurrent a = true) : r.isCurrent a = true := by
  have hlatest : ∃ b, q.latestIn? a.scope = some b := by
    unfold ActivityRegistry.isCurrent at hcurrent
    split at hcurrent
    · rename_i b hb
      exact ⟨b, hb⟩
    · exact absurd hcurrent (by simp)
  obtain ⟨b, hb⟩ := hlatest
  have hsame := scope_same_of_latestIn? hb
  obtain ⟨latest, hlatest, -, ⟨hgeneration, -⟩ | ⟨hlt, -⟩⟩ :=
    hbegun (Value.same_trans (Value.same_symm hsame) hsame)
  · simp [ActivityRegistry.isCurrent, hlatest, hgeneration]
  · have hstale := isCurrent_of_superseded (hevolves.superseded a ⟨latest, hlatest, hlt⟩)
    rw [hcurrent] at hstale
    exact absurd hstale (by simp)

theorem evolves_network {network : TokenNetwork α}
    (hadvances : r.network.Advances network) :
    r.Evolves { r with network } := by
  constructor
  · intro hwell scope a hlatest
    exact Nat.lt_of_lt_of_le (hwell scope a hlatest) hadvances.length_le
  · intro a hbegun hself
    obtain ⟨latest, hlatest, hlt, hcase⟩ := hbegun hself
    refine ⟨latest, hlatest, Nat.lt_of_lt_of_le hlt hadvances.length_le, ?_⟩
    rcases hcase with hsame | ⟨holder, hcancelled⟩
    · exact .inl hsame
    · exact .inr ⟨holder, hadvances.cancelled a.token hcancelled⟩
  · exact fun a hsuperseded => hsuperseded

theorem hasBegun_of_latestIn? (hwell : r.WellFormed) {scope : Value}
    {a : Activity} (hlatest : r.latestIn? scope = some a) : r.HasBegun a := by
  intro _
  have hsame := scope_same_of_latestIn? hlatest
  exact ⟨a, (latestIn?_congr hsame).trans hlatest, hwell scope a hlatest,
    .inl ⟨rfl, rfl⟩⟩

/-! ## Activities that begin -/

variable [DecidableEq α]

def networkBefore (r : ActivityRegistry α) (scope : Value) : TokenNetwork α :=
  match r.latestIn? scope with
  | some previous => r.network.cancel previous.token
  | none => r.network

def nextGeneration (r : ActivityRegistry α) (scope : Value) : Nat :=
  match r.latestIn? scope with
  | some previous => previous.generation + 1
  | none => 1

theorem startIn_eq (scope : Value) :
    r.startIn scope =
      let activity : Activity := ⟨scope, r.nextGeneration scope,
        (r.networkBefore scope).tokens.length⟩
      (⟨replaceLatest r.latest activity, (r.networkBefore scope).create.1⟩,
        activity) := by
  rfl

theorem advances_networkBefore (scope : Value) :
    r.network.Advances (r.networkBefore scope) := by
  unfold networkBefore
  split
  · exact TokenNetwork.advances_cancel ..
  · exact .refl _

theorem advances_startIn (scope : Value) :
    r.network.Advances (r.startIn scope).1.network :=
  (advances_networkBefore scope).trans (TokenNetwork.advances_create _)

theorem token_startIn_lt (scope : Value) :
    (r.startIn scope).2.token < (r.startIn scope).1.network.tokens.length := by
  simp [startIn_eq, TokenNetwork.create]

theorem latestIn?_startIn_of_same {scope other : Value}
    (hsame : scope.same other = true) :
    (r.startIn scope).1.latestIn? other = some (r.startIn scope).2 :=
  find?_replaceLatest_of_same hsame

theorem latestIn?_startIn_of_not_same {scope other : Value}
    (hsame : scope.same other = false) :
    (r.startIn scope).1.latestIn? other = r.latestIn? other :=
  find?_replaceLatest_of_not_same hsame

theorem isCancelled_startIn {scope : Value} {previous : Activity}
    (hprevious : r.latestIn? scope = some previous)
    (hlt : previous.token < r.network.tokens.length) :
    (r.startIn scope).1.network.isCancelled previous.token = true := by
  have hbefore : (r.networkBefore scope).isCancelled previous.token = true := by
    simp only [networkBefore, hprevious]
    exact TokenNetwork.isCancelled_cancel hlt
  exact (TokenNetwork.advances_create _).cancelled _ hbefore

theorem generation_startIn {scope : Value} {previous : Activity}
    (hprevious : r.latestIn? scope = some previous) :
    (r.startIn scope).2.generation = previous.generation + 1 := by
  simp [startIn_eq, nextGeneration, hprevious]

theorem hasBegun_startIn (scope : Value) :
    (r.startIn scope).1.HasBegun (r.startIn scope).2 := by
  intro hself
  exact ⟨_, latestIn?_startIn_of_same hself, token_startIn_lt scope,
    .inl ⟨rfl, rfl⟩⟩

theorem wellFormed_startIn (hwell : r.WellFormed) (scope : Value) :
    (r.startIn scope).1.WellFormed := by
  intro other a hlatest
  cases hsame : scope.same other with
  | true =>
      rw [latestIn?_startIn_of_same hsame] at hlatest
      obtain rfl := Option.some.inj hlatest
      exact token_startIn_lt scope
  | false =>
      rw [latestIn?_startIn_of_not_same hsame] at hlatest
      exact Nat.lt_of_lt_of_le (hwell other a hlatest)
        (advances_startIn scope).length_le

theorem HasBegun.startIn {a : Activity} (hbegun : r.HasBegun a)
    (scope : Value) : (r.startIn scope).1.HasBegun a := by
  intro hself
  have hadvances := advances_startIn (r := r) scope
  obtain ⟨latest, hlatest, hlt, hcase⟩ := hbegun hself
  cases hsame : scope.same a.scope with
  | true =>
      -- The latest activity before is cancelled, and the older ones stay so.
      have hprevious := (latestIn?_congr hsame).trans hlatest
      have hgeneration := generation_startIn hprevious
      have hcancelled := isCancelled_startIn hprevious hlt
      refine ⟨_, latestIn?_startIn_of_same hsame, token_startIn_lt scope,
        .inr ?_⟩
      rcases hcase with ⟨heq, htoken⟩ | ⟨holder, halready⟩
      · rw [htoken]
        exact ⟨by omega, hcancelled⟩
      · exact ⟨by omega, hadvances.cancelled a.token halready⟩
  | false =>
      refine ⟨latest, (latestIn?_startIn_of_not_same hsame).trans hlatest,
        Nat.lt_of_lt_of_le hlt hadvances.length_le, ?_⟩
      rcases hcase with heq | ⟨holder, halready⟩
      · exact .inl heq
      · exact .inr ⟨holder, hadvances.cancelled a.token halready⟩

theorem Superseded.startIn {a : Activity} (hsuperseded : r.Superseded a)
    (scope : Value) : (r.startIn scope).1.Superseded a := by
  obtain ⟨newer, hnewer, hlt⟩ := hsuperseded
  cases hsame : scope.same a.scope with
  | true =>
      refine ⟨_, latestIn?_startIn_of_same hsame, ?_⟩
      rw [generation_startIn ((latestIn?_congr hsame).trans hnewer)]
      omega
  | false =>
      exact ⟨newer, (latestIn?_startIn_of_not_same hsame).trans hnewer, hlt⟩

theorem evolves_startIn (scope : Value) : r.Evolves (r.startIn scope).1 := by
  constructor
  · exact fun hwell => wellFormed_startIn hwell scope
  · exact fun a hbegun => hbegun.startIn scope
  · exact fun a hsuperseded => hsuperseded.startIn scope

theorem start_eq_ok {q : ActivityRegistry α} {scope : Value} {a : Activity}
    (hstart : r.start scope = .ok (q, a)) :
    ∃ name, scopeOf scope = .ok name ∧ r.startIn name = (q, a) := by
  unfold start at hstart
  cases hname : scopeOf scope with
  | error fault => simp [hname, Except.map] at hstart
  | ok name =>
      simp only [hname, Except.map, Except.ok.injEq] at hstart
      exact ⟨name, rfl, hstart⟩

theorem evolves_start {q : ActivityRegistry α} {scope : Value} {a : Activity}
    (hstart : r.start scope = .ok (q, a)) : r.Evolves q ∧ q.HasBegun a := by
  obtain ⟨name, _, hstartIn⟩ := start_eq_ok hstart
  have hevolves := evolves_startIn (r := r) name
  have hbegun := hasBegun_startIn (r := r) name
  rw [hstartIn] at hevolves hbegun
  exact ⟨hevolves, hbegun⟩

theorem evolves_cancelCurrent {q : ActivityRegistry α} {scope : Value}
    (hcancel : r.cancelCurrent scope = .ok q) : r.Evolves q := by
  unfold cancelCurrent at hcancel
  cases hcurrent : r.current? scope with
  | error fault => simp [hcurrent, bind, Except.bind] at hcancel
  | ok latest =>
      cases latest with
      | none => simp [hcurrent, bind, Except.bind, throw, throwThe,
          MonadExceptOf.throw] at hcancel
      | some a =>
          simp only [hcurrent, bind, Except.bind, pure, Except.pure,
            Except.ok.injEq] at hcancel
          rw [← hcancel]
          exact evolves_network (TokenNetwork.advances_cancel ..)

end ActivityRegistry

end RequestBreakdown
