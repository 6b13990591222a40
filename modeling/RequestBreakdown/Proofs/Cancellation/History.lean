import Mathlib.Data.List.Nodup
import RequestBreakdown.Proofs.Cancellation.Consequences
import RequestBreakdown.Proofs.Cancellation.Registry

/-!
# One live activity in each scope

Activities are started in any scopes, while tokens are made, merged and cancelled
and callbacks come and go, which may do anything but start an activity.  Whatever
happens, the registry knows the last activity of each scope, the generations of
a scope are counted from one, and all activities before the last are cancelled.
-/

namespace RequestBreakdown

/-- What happens to a registry. -/
inductive RegistryAction (α : Type) where
  | start (scope : Option String)
  | cancel (token : TokenId)
  | create
  | merge (sources : List TokenId)
  | register (token : TokenId) (callback : Callback α)
  | unregister (token : TokenId) (callback : Callback α)
  /-- What those do who are notified, from now on. -/
  | react (reactions : List (α × Reaction α))

/-- A registry, and all activities that have started, in order. -/
structure ActivityHistory (α : Type) where
  registry : ActivityRegistry α := {}
  started : List Activity := []

namespace ActivityHistory

variable {α : Type}

/-- A scope as it is given. -/
def given : Option String → Value
  | none => .null
  | some name => .text name

/-- The name of a scope as it is given. -/
def named : Option String → String
  | none => ActivityRegistry.defaultScope
  | some name => if name = "" then ActivityRegistry.defaultScope else name

theorem scopeOf_given (scope : Option String) :
    ActivityRegistry.scopeOf (given scope) = .ok (.text (named scope)) := by
  cases scope with
  | none => rfl
  | some name =>
      by_cases hempty : name = ""
      · subst hempty
        rfl
      · have hpresent : (Value.text name).isPresent = true := by
          simpa [Value.isPresent] using hempty
        simp [ActivityRegistry.scopeOf, given, named, hempty, Value.orElse,
          Value.present?, hpresent, Value.asName]

def network (h : ActivityHistory α) : TokenNetwork α := h.registry.network

def withNetwork (h : ActivityHistory α) (network : TokenNetwork α) :
    ActivityHistory α :=
  { h with registry := { h.registry with network } }

/-- The activities that have started in a scope, in order. -/
def startedIn (h : ActivityHistory α) (scope : Value) : List Activity :=
  h.started.filter fun a => a.scope = scope

section

variable [DecidableEq α]

def step (h : ActivityHistory α) : RegistryAction α → ActivityHistory α
  | .start scope =>
    match h.registry.start (given scope) with
    | .ok (registry, activity) => { registry, started := h.started ++ [activity] }
    | .error _ => h
  | .cancel token => h.withNetwork (h.network.cancel token)
  | .create => h.withNetwork h.network.create.1
  | .merge sources => h.withNetwork (h.network.merge sources).1
  | .register token callback => h.withNetwork (h.network.register token callback).1
  | .unregister token callback => h.withNetwork (h.network.unregister token callback)
  | .react reactions => h.withNetwork { h.network with reactions }

def after (actions : List (RegistryAction α)) : ActivityHistory α :=
  actions.foldl step {}

theorem start_given (h : ActivityHistory α) (scope : Option String) :
    h.registry.start (given scope) =
      .ok (h.registry.startIn (.text (named scope))) := by
  simp [ActivityRegistry.start, scopeOf_given, Except.map]

end

/-! ## What the registry knows of its history -/

structure Faithful (h : ActivityHistory α) : Prop where
  scope : ∀ a ∈ h.started, ∃ name, a.scope = .text name
  token_lt : ∀ a ∈ h.started, a.token < h.network.tokens.length
  nodup : (h.started.map (·.token)).Nodup
  latest : ∀ name, h.registry.latestIn? (.text name) =
    (h.startedIn (.text name)).getLast?
  generations : ∀ name, (h.startedIn (.text name)).map (·.generation) =
    List.range' 1 (h.startedIn (.text name)).length
  superseded : ∀ name, ∀ a ∈ (h.startedIn (.text name)).dropLast,
    h.network.isCancelled a.token = true

variable {h : ActivityHistory α}

theorem faithful_new : Faithful ({} : ActivityHistory α) := by
  constructor <;> simp [startedIn, ActivityRegistry.latestIn?]

theorem Faithful.withNetwork (hfaithful : h.Faithful) {network : TokenNetwork α}
    (hadvances : h.network.Advances network) : (h.withNetwork network).Faithful := by
  constructor
  case scope => exact hfaithful.scope
  case token_lt =>
      exact fun a ha => Nat.lt_of_lt_of_le (hfaithful.token_lt a ha) hadvances.length_le
  case nodup => exact hfaithful.nodup
  case latest => exact hfaithful.latest
  case generations => exact hfaithful.generations
  case superseded =>
      exact fun name a ha => hadvances.cancelled _ (hfaithful.superseded name a ha)

theorem startedIn_concat (h : ActivityHistory α) (q : ActivityRegistry α)
    (a : Activity) (scope : Value) :
    (⟨q, h.started ++ [a]⟩ : ActivityHistory α).startedIn scope =
      h.startedIn scope ++ if a.scope = scope then [a] else [] := by
  by_cases hscope : a.scope = scope <;> simp [startedIn, hscope]

theorem Faithful.generation_of_concat (hfaithful : h.Faithful) {name : String}
    {before : List Activity} {last : Activity}
    (hstarted : h.startedIn (.text name) = before ++ [last]) :
    last.generation = before.length + 1 := by
  have hgenerations := hfaithful.generations name
  rw [hstarted, List.map_append, List.length_append, List.length_singleton,
    List.range'_concat] at hgenerations
  have hlast := (List.append_inj' hgenerations (by simp)).2
  simpa [Nat.add_comm] using hlast

theorem Faithful.nextGeneration (hfaithful : h.Faithful) (name : String) :
    h.registry.nextGeneration (.text name) =
      (h.startedIn (.text name)).length + 1 := by
  rw [ActivityRegistry.nextGeneration, hfaithful.latest]
  rcases List.eq_nil_or_concat (h.startedIn (.text name)) with
    hnone | ⟨before, last, hstarted⟩
  · rw [hnone]
    rfl
  · rw [List.concat_eq_append] at hstarted
    simp [hstarted, hfaithful.generation_of_concat hstarted]

variable [DecidableEq α]

/-- When an activity starts, all others of its scope are cancelled. -/
theorem Faithful.isCancelled_start (hfaithful : h.Faithful) {name : String}
    {a : Activity} (ha : a ∈ h.startedIn (.text name)) :
    (h.registry.startIn (.text name)).1.network.isCancelled a.token = true := by
  have hadvances := ActivityRegistry.advances_startIn (r := h.registry) (.text name)
  rcases List.eq_nil_or_concat (h.startedIn (.text name)) with
    hnone | ⟨before, last, hstarted⟩
  · rw [hnone] at ha
    exact absurd ha List.not_mem_nil
  · rw [List.concat_eq_append] at hstarted
    rw [hstarted] at ha
    rcases List.mem_append.mp ha with hbefore | hlast
    · refine hadvances.cancelled _ (hfaithful.superseded name a ?_)
      rwa [hstarted, List.dropLast_concat]
    · obtain rfl := List.mem_singleton.mp hlast
      have hlatest : h.registry.latestIn? (.text name) = some a := by
        rw [hfaithful.latest, hstarted, List.getLast?_concat]
      have hmem : a ∈ h.startedIn (.text name) := by simp [hstarted]
      exact ActivityRegistry.isCancelled_startIn hlatest
        (hfaithful.token_lt a (List.mem_of_mem_filter hmem))

theorem Faithful.start (hfaithful : h.Faithful) (name : String) :
    Faithful (⟨(h.registry.startIn (.text name)).1,
      h.started ++ [(h.registry.startIn (.text name)).2]⟩ : ActivityHistory α) := by
  have hadvances := ActivityRegistry.advances_startIn (r := h.registry) (.text name)
  have hscope : (h.registry.startIn (.text name)).2.scope = .text name := rfl
  have hnew : h.network.tokens.length ≤ (h.registry.startIn (.text name)).2.token :=
    (ActivityRegistry.advances_networkBefore _).length_le
  constructor
  case scope =>
      intro a ha
      rcases List.mem_append.mp ha with hold | hlast
      · exact hfaithful.scope a hold
      · exact ⟨name, by rw [List.mem_singleton.mp hlast, hscope]⟩
  case token_lt =>
      intro a ha
      rcases List.mem_append.mp ha with hold | hlast
      · exact Nat.lt_of_lt_of_le (hfaithful.token_lt a hold) hadvances.length_le
      · rw [List.mem_singleton.mp hlast]
        exact ActivityRegistry.token_startIn_lt _
  case nodup =>
      have hother : (h.registry.startIn (.text name)).2.token ∉
          h.started.map (·.token) := by
        intro hmem
        obtain ⟨a, ha, heq⟩ := List.mem_map.mp hmem
        exact absurd (hfaithful.token_lt a ha) (Nat.not_lt.mpr (heq ▸ hnew))
      simpa using hfaithful.nodup.concat hother
  case latest =>
      intro other
      rw [startedIn_concat, hscope]
      by_cases heq : name = other
      · subst heq
        rw [if_pos rfl, List.getLast?_concat]
        exact ActivityRegistry.latestIn?_startIn_of_same (Value.same_text.mpr rfl)
      · have hother : ¬ Value.text name = .text other := by simpa using heq
        rw [if_neg hother, List.append_nil, ← hfaithful.latest]
        refine ActivityRegistry.latestIn?_startIn_of_not_same ?_
        exact Bool.eq_false_iff.mpr fun hsame => heq (Value.same_text.mp hsame)
  case generations =>
      intro other
      rw [startedIn_concat, hscope]
      by_cases heq : name = other
      · subst heq
        have hgeneration : (h.registry.startIn (.text name)).2.generation =
            (h.startedIn (.text name)).length + 1 := hfaithful.nextGeneration name
        rw [if_pos rfl, List.map_append, hfaithful.generations, List.length_append,
          List.length_singleton, List.range'_concat, List.map_singleton, hgeneration]
        simp [Nat.add_comm]
      · have hother : ¬ Value.text name = .text other := by simpa using heq
        rw [if_neg hother, List.append_nil]
        exact hfaithful.generations other
  case superseded =>
      intro other a ha
      rw [startedIn_concat, hscope] at ha
      by_cases heq : name = other
      · subst heq
        rw [if_pos rfl, List.dropLast_concat] at ha
        exact hfaithful.isCancelled_start ha
      · have hother : ¬ Value.text name = .text other := by simpa using heq
        rw [if_neg hother, List.append_nil] at ha
        exact hadvances.cancelled _ (hfaithful.superseded other a ha)

theorem Faithful.step (hfaithful : h.Faithful) (action : RegistryAction α) :
    (h.step action).Faithful := by
  cases action with
  | start scope =>
      simp only [ActivityHistory.step, start_given]
      exact hfaithful.start (named scope)
  | cancel token => exact hfaithful.withNetwork (TokenNetwork.advances_cancel ..)
  | create => exact hfaithful.withNetwork (TokenNetwork.advances_create _)
  | merge sources => exact hfaithful.withNetwork (TokenNetwork.advances_merge ..)
  | register token callback =>
      exact hfaithful.withNetwork (TokenNetwork.advances_register ..)
  | unregister token callback =>
      exact hfaithful.withNetwork (TokenNetwork.advances_unregister ..)
  | react reactions => exact hfaithful.withNetwork (TokenNetwork.advances_of_tokens rfl)

theorem faithful_after (actions : List (RegistryAction α)) :
    (after actions).Faithful := by
  suffices hfrom : ∀ h : ActivityHistory α, h.Faithful →
      (actions.foldl step h).Faithful from hfrom {} faithful_new
  induction actions with
  | nil => exact fun h hfaithful => hfaithful
  | cons action rest ih => exact fun h hfaithful => ih _ (hfaithful.step action)

/-! ## What is current -/

omit [DecidableEq α] in
theorem Faithful.isCurrent_iff (hfaithful : h.Faithful) {a : Activity}
    (ha : a ∈ h.started) :
    h.registry.isCurrent a = true ↔ (h.startedIn a.scope).getLast? = some a := by
  obtain ⟨name, hname⟩ := hfaithful.scope a ha
  have hmem : a ∈ h.startedIn (.text name) := by simp [startedIn, ha, hname]
  have hnodup : ((h.startedIn (.text name)).map (·.generation)).Nodup := by
    rw [hfaithful.generations]
    exact List.nodup_range'
  rw [ActivityRegistry.isCurrent, hname, hfaithful.latest]
  cases hlast : (h.startedIn (.text name)).getLast? with
  | none => simp
  | some last =>
      have hlastMem := List.mem_of_getLast? hlast
      simp only [beq_iff_eq, Option.some.injEq]
      constructor
      · exact fun hgeneration =>
          List.inj_on_of_nodup_map hnodup hlastMem hmem hgeneration
      · exact fun heq => congrArg _ heq

omit [DecidableEq α] in
theorem Faithful.isCancelled_of_not_current (hfaithful : h.Faithful) {a : Activity}
    (ha : a ∈ h.started) (hnot : h.registry.isCurrent a = false) :
    h.network.isCancelled a.token = true := by
  obtain ⟨name, hname⟩ := hfaithful.scope a ha
  have hmem : a ∈ h.startedIn (.text name) := by simp [startedIn, ha, hname]
  have hlast : ¬ (h.startedIn (.text name)).getLast? = some a := by
    rw [← hname, ← hfaithful.isCurrent_iff ha, hnot]
    exact Bool.false_ne_true
  refine hfaithful.superseded name a ?_
  rcases List.eq_nil_or_concat (h.startedIn (.text name)) with
    hnone | ⟨before, last, hstarted⟩
  · rw [hnone] at hmem
    exact absurd hmem List.not_mem_nil
  · rw [List.concat_eq_append] at hstarted
    rw [hstarted] at hmem hlast ⊢
    rw [List.getLast?_concat, Option.some.injEq] at hlast
    rw [List.dropLast_concat]
    refine (List.mem_append.mp hmem).resolve_right fun hself => hlast ?_
    exact (List.mem_singleton.mp hself).symm

/-- Another scope has its current activity as before. -/
theorem Faithful.isCurrent_start (hfaithful : h.Faithful) {name : String}
    {a : Activity} (ha : a ∈ h.started) (hother : a.scope ≠ .text name) :
    (h.registry.startIn (.text name)).1.isCurrent a = h.registry.isCurrent a := by
  obtain ⟨other, hscope⟩ := hfaithful.scope a ha
  have hnot : (Value.text name).same a.scope = false := by
    rw [hscope] at hother ⊢
    refine Bool.eq_false_iff.mpr fun hsame => hother ?_
    rw [Value.same_text.mp hsame]
  unfold ActivityRegistry.isCurrent
  rw [ActivityRegistry.latestIn?_startIn_of_not_same hnot]

theorem Faithful.setsOff_of_isCancelled_start (hfaithful : h.Faithful) {name : String}
    {a : Activity} (ha : a ∈ h.started) (hother : a.scope ≠ .text name) :
    (h.registry.startIn (.text name)).1.network.isCancelled a.token =
        h.network.isCancelled a.token ∨
      ∃ previous, (h.startedIn (.text name)).getLast? = some previous ∧
        a.token ≠ previous.token ∧
        TokenNetwork.SetsOff h.network previous.token (.cancel a.token) := by
  have hcreate : (h.registry.startIn (.text name)).1.network.isCancelled a.token =
      (h.registry.networkBefore (.text name)).isCancelled a.token := by
    simp [ActivityRegistry.startIn_eq, TokenNetwork.isCancelled]
  rw [hcreate, ActivityRegistry.networkBefore, hfaithful.latest]
  cases hlast : (h.startedIn (.text name)).getLast? with
  | none => exact .inl rfl
  | some previous =>
      have hmem := List.mem_filter.mp (List.mem_of_getLast? hlast)
      have hne : a.token ≠ previous.token := by
        intro heq
        obtain rfl := List.inj_on_of_nodup_map hfaithful.nodup ha hmem.1 heq
        exact hother (by simpa using hmem.2)
      cases hdone : h.network.isCancelled a.token with
      | true =>
          exact .inl ((TokenNetwork.advances_cancel _ previous.token).cancelled _ hdone)
      | false =>
          cases hcancelled : (h.registry.network.cancel previous.token).isCancelled
              a.token with
          | false => exact .inl rfl
          | true =>
              have hsets := TokenNetwork.setsOff_of_isCancelled_cancel hcancelled
              refine .inr ⟨previous, rfl, hne, hsets.resolve_left ?_⟩
              exact Bool.eq_false_iff.mp hdone

/-- In each scope the last activity is current, and it is the only one that may be
alive; the generations of a scope are counted from one.  A start changes nothing
in another scope, but for tokens that are cancelled by what the token that is
cancelled in its own scope sets off. -/
theorem one_live_activity (actions : List (RegistryAction α)) :
    let h := after actions
    (∀ a ∈ h.started,
      (h.registry.isCurrent a = true ↔
        (h.startedIn a.scope).getLast? = some a) ∧
      (h.registry.isCurrent a = false → h.network.isCancelled a.token = true)) ∧
    (∀ name, (h.startedIn (.text name)).map (·.generation) =
      List.range' 1 (h.startedIn (.text name)).length) ∧
    (∀ scope, h.registry.current? (given scope) =
      .ok (h.startedIn (.text (named scope))).getLast?) ∧
    ∀ scope, ∃ q a, h.registry.start (given scope) = .ok (q, a) ∧
      a.scope = .text (named scope) ∧
      ∀ b ∈ h.started, b.scope ≠ .text (named scope) →
        q.isCurrent b = h.registry.isCurrent b ∧
        (q.network.isCancelled b.token = h.network.isCancelled b.token ∨
          ∃ previous,
            (h.startedIn (.text (named scope))).getLast? = some previous ∧
            b.token ≠ previous.token ∧
            TokenNetwork.SetsOff h.network previous.token (.cancel b.token)) := by
  have hfaithful := faithful_after actions
  refine ⟨fun a ha => ⟨hfaithful.isCurrent_iff ha,
    hfaithful.isCancelled_of_not_current ha⟩, hfaithful.generations, fun scope => ?_,
    fun scope => ⟨_, _, start_given _ scope, rfl, fun b hb hother => ?_⟩⟩
  · rw [ActivityRegistry.current?, scopeOf_given, Except.map, hfaithful.latest]
  · exact ⟨hfaithful.isCurrent_start hb hother,
      hfaithful.setsOff_of_isCancelled_start hb hother⟩

/-- A callback that cancels the token of another scope runs when its own is left. -/
theorem start_cancels_other_scope :
    let h : ActivityHistory String := after [.start (some "facets"),
      .start (some "preview"), .react [("left", .cancel 1)],
      .register 0 (.notify "left")]
    ∃ b ∈ h.started, ∃ q a,
      h.registry.start (given (some "facets")) = .ok (q, a) ∧
      b.scope ≠ a.scope ∧ h.network.isCancelled b.token = false ∧
      q.network.isCancelled b.token = true := by
  intro h
  have hh : h = ⟨⟨[⟨"facets", 1, 0⟩, ⟨"preview", 1, 1⟩],
      { tokens := [⟨false, [.notify "left"]⟩, {}]
        reactions := [("left", .cancel 1)] }⟩,
      [⟨"facets", 1, 0⟩, ⟨"preview", 1, 1⟩]⟩ := rfl
  have hfirst : h.network.tokens[0]? = some ⟨false, [.notify "left"]⟩ := by
    rw [hh]
    rfl
  have hreaction : (h.network.exhaust 0).heard "left" = (["left"], .cancel 1) := by
    rw [hh]
    rfl
  have hcancelled : (h.network.cancel 0).isCancelled 1 = true := by
    rw [TokenNetwork.cancel, TokenNetwork.run_cancel_of_live hfirst rfl,
      List.append_nil, TokenNetwork.run, hreaction]
    exact TokenNetwork.isCancelled_cancel (by rw [hh]; decide)
  have hbefore : h.registry.networkBefore (.text "facets") = h.network.cancel 0 := by
    rw [hh]
    rfl
  rw [← hbefore] at hcancelled
  exact ⟨⟨"preview", 1, 1⟩, by simp [hh], (h.registry.startIn (.text "facets")).1,
    (h.registry.startIn (.text "facets")).2, start_given h _, by decide,
    by rw [hh]; rfl, (TokenNetwork.advances_create _).cancelled 1 hcancelled⟩

end ActivityHistory

end RequestBreakdown
