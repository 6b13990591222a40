import Mathlib.Data.List.ReduceOption
import RequestBreakdown.Proofs.Cancellation.Propagation

/-!
# Merged tokens

Tokens are created, merged and cancelled in any order.  Of all tokens those are
cancelled that somebody has cancelled, and those that were made of one that is.
Nothing is left behind: a token that is not cancelled holds the registrations of
those merged tokens that still wait for it, one for each time that it is among
their sources, and none of those that are over.
-/

namespace RequestBreakdown

namespace TokenNetwork

variable {α : Type} {n : TokenNetwork α} {merges : List TokenMerge}
  {asked sources : List TokenId} {id : TokenId} {attached : TokenMerge → Bool}

/-! ## One operation after the other -/

/-- Nothing of a cancellation is left to be done. -/
structure Settled (merges : List TokenMerge) (asked : List TokenId)
    (n : TokenNetwork α) : Prop where
  ordered : Ordered merges n.tokens.length
  cancelled : ∀ id, n.isCancelled id = true ↔ Fires merges asked id
  held : ∀ id, id < n.tokens.length → n.isCancelled id = false →
    (n.token id).callbacks =
      registered (fun m => !n.isCancelled m.merged) merges id

theorem settled_new : Settled [] [] ({} : TokenNetwork α) := by
  have hnone : ∀ id, ({} : TokenNetwork α).isCancelled id = false := fun _ => rfl
  refine ⟨⟨List.nodup_nil, by simp, by simp⟩, fun id => ?_, by simp⟩
  rw [hnone]
  refine ⟨fun hfalse => absurd hfalse (by decide), fun hfires => ?_⟩
  cases hfires with
  | asked hmem => simp at hmem
  | merged hmerge => simp at hmerge

theorem Propagates.settled (hprop : Propagates merges asked attached n []) :
    Settled merges asked n := by
  refine ⟨hprop.ordered, fun id => ⟨hprop.fires id, fun hfires => ?_⟩, ?_⟩
  · induction hfires with
    | asked hasked => simpa using hprop.reached _ hasked
    | merged hmerge hsource _ ih => simpa using hprop.passed _ hmerge _ hsource ih
  · intro id hlt hlive
    rw [hprop.held id hlt hlive]
    apply registered_congr
    intro m hm
    cases hdone : n.isCancelled m.merged with
    | false => simp [hprop.attached_of_live m hm hdone]
    | true =>
        have hnot : ¬ attached m = true := fun hattached => by
          simpa using hprop.detach_mem m hm hattached hdone
        simpa using hnot

theorem Settled.create (hsettled : Settled merges asked n) :
    Settled merges asked n.create.1 := by
  have hsize : n.create.1.tokens.length = n.tokens.length + 1 := by simp [TokenNetwork.create]
  have hsame : ∀ id, n.create.1.isCancelled id = n.isCancelled id := fun id => by
    simp [isCancelled]
  refine ⟨⟨hsettled.ordered.nodup, fun m hm => ?_, hsettled.ordered.source_lt⟩,
    fun id => (hsame id) ▸ hsettled.cancelled id, fun id hlt hlive => ?_⟩
  · exact hsize ▸ Nat.lt_succ_of_lt (hsettled.ordered.merged_lt m hm)
  · simp only [hsame, token_create]
    rw [hsize] at hlt
    rcases Nat.lt_or_eq_of_le (Nat.le_of_lt_succ hlt) with hold | rfl
    · exact hsettled.held id hold (hsame id ▸ hlive)
    · rw [token_of_length_le (Nat.le_refl _),
        registered_of_size_le hsettled.ordered (Nat.le_refl _)]

theorem Ordered.concat {size : Nat} (hordered : Ordered merges size)
    {sources : List TokenId} (hsources : ∀ source ∈ sources, source < size) :
    Ordered (merges ++ [⟨size, sources⟩]) (size + 1) := by
  refine ⟨?_, ?_, ?_⟩
  · have hnew : size ∉ merges.map (·.merged) := by
      intro hmem
      obtain ⟨m, hm, heq⟩ := List.mem_map.mp hmem
      exact absurd heq (Nat.ne_of_lt (hordered.merged_lt m hm))
    simpa using hordered.nodup.concat hnew
  · intro m hm
    rcases List.mem_append.mp hm with hold | hnew
    · exact Nat.lt_succ_of_lt (hordered.merged_lt m hold)
    · simp [List.mem_singleton.mp hnew]
  · intro m hm
    rcases List.mem_append.mp hm with hold | hnew
    · exact hordered.source_lt m hold
    · rwa [List.mem_singleton.mp hnew]

/-- A new token, which is registered with sources that are to cancel it. -/
def awaiting (n : TokenNetwork α) (sources : List TokenId) : TokenNetwork α :=
  sources.foldl (fun m source => m.append source (.cancel n.tokens.length)) n.create.1

theorem length_awaiting :
    (n.awaiting sources).tokens.length = n.tokens.length + 1 :=
  (length_changeAll sources).trans (by simp [TokenNetwork.create])

theorem isCancelled_awaiting :
    (n.awaiting sources).isCancelled id = n.isCancelled id :=
  (isCancelled_changeAll sources).trans (by simp [isCancelled])

theorem callbacks_awaiting (hlt : id < n.tokens.length + 1) :
    ((n.awaiting sources).token id).callbacks = (n.token id).callbacks ++
      List.replicate (sources.count id) (.cancel n.tokens.length) := by
  have hiterate : ∀ (count : Nat) (callbacks : List (Callback α)) (c : Callback α),
      (· ++ [c])^[count] callbacks = callbacks ++ List.replicate count c := by
    intro count
    induction count with
    | zero => simp
    | succ count ih =>
        intro callbacks c
        rw [Function.iterate_succ_apply, ih, List.append_assoc,
          List.singleton_append, ← List.replicate_succ]
  refine (callbacks_changeAll sources ?_).trans ?_
  · simpa [TokenNetwork.create] using hlt
  · rw [hiterate, token_create]

/-- A token that is merged from a cancelled one is cancelled at once, and leaves
nothing behind. -/
theorem Settled.merge_of_cancelled (hsettled : Settled merges asked n)
    (hsources : ∀ source ∈ sources, source < n.tokens.length)
    (hsome : ∃ source ∈ sources, n.isCancelled source = true) :
    Settled (merges ++ [⟨n.tokens.length, sources⟩]) asked
      (n.create.1.exhaust n.tokens.length) := by
  have hsize : (n.create.1.exhaust n.tokens.length).tokens.length =
      n.tokens.length + 1 := by
    simp [TokenNetwork.exhaust, TokenNetwork.create]
  have hdone : ∀ id, (n.create.1.exhaust n.tokens.length).isCancelled id = true ↔
      id = n.tokens.length ∨ n.isCancelled id = true := fun id =>
    (isCancelled_exhaust_iff (by simp [TokenNetwork.create])).trans (by simp [isCancelled])
  obtain ⟨source, hsource, hcancelled⟩ := hsome
  have hmore : ∀ id, Fires merges asked id →
      Fires (merges ++ [⟨n.tokens.length, sources⟩]) asked id := fun id hfires =>
    hfires.mono (fun _ hm => List.mem_append_left _ hm) fun _ hmem => hmem
  refine ⟨hsize ▸ hsettled.ordered.concat hsources, fun id => ?_,
    fun id hlt hlive => ?_⟩
  · rw [hdone]
    constructor
    · rintro (rfl | hbefore)
      · exact .merged (m := ⟨n.tokens.length, sources⟩) (by simp) hsource
          (hmore _ ((hsettled.cancelled _).mp hcancelled))
      · exact hmore id ((hsettled.cancelled id).mp hbefore)
    · intro hfires
      induction hfires with
      | asked hasked => exact .inr ((hsettled.cancelled _).mpr (.asked hasked))
      | @merged m source hm hsource _ ih =>
          rcases List.mem_append.mp hm with hold | hnew
          · have hbefore : source < n.tokens.length :=
              Nat.lt_trans (hsettled.ordered.source_lt m hold source hsource)
                (hsettled.ordered.merged_lt m hold)
            have hfires := (hsettled.cancelled _).mp
              (ih.resolve_left (Nat.ne_of_lt hbefore))
            exact .inr ((hsettled.cancelled _).mpr (.merged hold hsource hfires))
          · exact .inl (by rw [List.mem_singleton.mp hnew])
  · have hne : id ≠ n.tokens.length := by
      rintro rfl
      rw [(hdone _).mpr (.inl rfl)] at hlive
      exact absurd hlive (by decide)
    rw [hsize] at hlt
    have hold : id < n.tokens.length := Nat.lt_of_le_of_ne (Nat.le_of_lt_succ hlt) hne
    have hstill : n.isCancelled id = false := Bool.eq_false_iff.mpr fun hbefore => by
      rw [(hdone _).mpr (.inr hbefore)] at hlive
      exact absurd hlive (by decide)
    rw [token_exhaust_of_ne (Ne.symm hne), token_create, hsettled.held id hold hstill,
      registered_append]
    have hnew : registered (α := α)
        (fun m => !(n.create.1.exhaust n.tokens.length).isCancelled m.merged)
        [⟨n.tokens.length, sources⟩] id = [] := by
      simp [registered, (hdone n.tokens.length).mpr (.inl rfl)]
    rw [hnew, List.append_nil]
    apply registered_congr
    intro m hm
    have hmerged : m.merged ≠ n.tokens.length :=
      Nat.ne_of_lt (hsettled.ordered.merged_lt m hm)
    have hsame := hdone m.merged
    rw [or_iff_right hmerged] at hsame
    rw [Bool.eq_iff_iff.mpr hsame]

/-- A token that is merged from others that are alive waits for them. -/
theorem Settled.merge_of_live (hsettled : Settled merges asked n)
    (hsources : ∀ source ∈ sources, source < n.tokens.length)
    (hlive : ∀ source ∈ sources, n.isCancelled source = false) :
    Settled (merges ++ [⟨n.tokens.length, sources⟩]) asked
      ((n.awaiting sources).append n.tokens.length
        (.detach n.tokens.length sources)) := by
  have hsize : ((n.awaiting sources).append n.tokens.length
      (.detach n.tokens.length sources)).tokens.length = n.tokens.length + 1 :=
    (length_withCallbacks ..).trans length_awaiting
  have hsame : ∀ id, ((n.awaiting sources).append n.tokens.length
      (.detach n.tokens.length sources)).isCancelled id = n.isCancelled id :=
    fun id => (isCancelled_withCallbacks ..).trans isCancelled_awaiting
  refine ⟨hsize ▸ hsettled.ordered.concat hsources, fun id => ?_,
    fun id hlt hstill => ?_⟩
  · rw [hsame, hsettled.cancelled]
    constructor
    · exact fun hfires =>
        hfires.mono (fun _ hm => List.mem_append_left _ hm) fun _ hmem => hmem
    · intro hfires
      induction hfires with
      | asked hasked => exact .asked hasked
      | merged hm hsource _ ih =>
          rcases List.mem_append.mp hm with hold | hnew
          · exact .merged hold hsource ih
          · -- The new token has no source that is cancelled.
            rw [List.mem_singleton.mp hnew] at hsource
            have hdead := (hsettled.cancelled _).mpr ih
            rw [hlive _ hsource] at hdead
            exact absurd hdead (by decide)
  · simp only [hsame]
    rw [hsize] at hlt
    have hattached : (registered (fun m => !n.isCancelled m.merged)
        [⟨n.tokens.length, sources⟩] id : List (Callback α)) =
          TokenMerge.registrations ⟨n.tokens.length, sources⟩ id := by
      simp [registered, isCancelled, token_of_length_le]
    rw [registered_append, hattached]
    rcases Nat.lt_or_eq_of_le (Nat.le_of_lt_succ hlt) with hold | rfl
    · have hne : n.tokens.length ≠ id := Nat.ne_of_gt hold
      rw [append, token_withCallbacks_of_ne hne, callbacks_awaiting hlt,
        hsettled.held id hold (hsame id ▸ hstill), TokenMerge.registrations_of_ne hne]
    · have hnone : n.tokens.length ∉ sources := fun hmem =>
        Nat.lt_irrefl _ (hsources _ hmem)
      rw [append, callbacks_withCallbacks (by rw [length_awaiting]; exact hlt),
        callbacks_awaiting hlt, token_of_length_le (Nat.le_refl _),
        registered_of_size_le hsettled.ordered (Nat.le_refl _)]
      simp [TokenMerge.registrations, List.count_eq_zero.mpr hnone]

section

variable [DecidableEq α]

theorem Settled.cancel (hsettled : Settled merges asked n)
    (hlt : id < n.tokens.length) :
    Settled merges (asked ++ [id]) (n.cancel id) := by
  have hmore : ∀ other, Fires merges asked other →
      Fires merges (asked ++ [id]) other := fun other hfires =>
    hfires.mono (fun _ hm => hm) fun _ hmem => List.mem_append_left _ hmem
  have hprop : Propagates merges (asked ++ [id])
      (fun m => !n.isCancelled m.merged) n [.cancel id] := by
    constructor
    case ordered => exact hsettled.ordered
    case fires =>
        exact fun other hdone => hmore other ((hsettled.cancelled other).mp hdone)
    case reached =>
        intro other hother
        rcases List.mem_append.mp hother with hold | hnew
        · exact .inl ((hsettled.cancelled other).mpr (.asked hold))
        · exact .inr (by simpa using hnew)
    case passed =>
        intro m hm source hsource hdone
        exact .inl ((hsettled.cancelled _).mpr
          (.merged hm hsource ((hsettled.cancelled _).mp hdone)))
    case cancels =>
        intro other hother
        obtain rfl : other = id := by simpa using hother
        exact ⟨hlt, .asked (by simp)⟩
    case detaches => simp
    case silent => simp
    case attached_of_live => simp
    case detach_mem =>
        intro m _ hattached hdone
        simp [hdone] at hattached
    case held => exact hsettled.held
  obtain ⟨others, hdone⟩ := hprop.run
  exact hdone.settled

theorem foldl_register {callback : Callback α}
    (hlive : ∀ source ∈ sources, n.isCancelled source = false) :
    sources.foldl (fun n source => (n.register source callback).1) n =
      sources.foldl (fun n source => n.append source callback) n := by
  induction sources generalizing n with
  | nil => rfl
  | cons first rest ih =>
      have hfirst : (n.register first callback).1 = n.append first callback := by
        simp [register, hlive first List.mem_cons_self]
      rw [List.foldl_cons, List.foldl_cons, hfirst]
      refine ih fun source hsource => ?_
      rw [append, isCancelled_withCallbacks]
      exact hlive source (List.mem_cons_of_mem _ hsource)

theorem merge_of_two_le (htwo : 2 ≤ sources.length) :
    n.merge sources =
      if sources.any n.create.1.isCancelled = true then
        (n.create.1.cancel n.tokens.length, some n.tokens.length)
      else
        (((sources.foldl (fun n' source =>
          (n'.register source (.cancel n.tokens.length)).1) n.create.1).register
            n.tokens.length (.detach n.tokens.length sources)).1,
          some n.tokens.length) := by
  unfold merge
  split
  · exact absurd htwo (by simp)
  · exact absurd htwo (by simp)
  · rfl

theorem merge_of_cancelled (htwo : 2 ≤ sources.length)
    (hsome : ∃ source ∈ sources, n.isCancelled source = true) :
    n.merge sources =
      (n.create.1.exhaust n.tokens.length, some n.tokens.length) := by
  have hany : (sources.any n.create.1.isCancelled) = true := by
    simpa [List.any_eq_true, isCancelled] using hsome
  have hsilent : n.create.1.cancel n.tokens.length =
      n.create.1.exhaust n.tokens.length :=
    cancel_of_silent (by simp [TokenNetwork.create])
  rw [merge_of_two_le htwo, if_pos hany, hsilent]

theorem merge_of_live (htwo : 2 ≤ sources.length)
    (hlive : ∀ source ∈ sources, n.isCancelled source = false) :
    n.merge sources =
      ((n.awaiting sources).append n.tokens.length
        (.detach n.tokens.length sources), some n.tokens.length) := by
  have hsame : ∀ source ∈ sources, n.create.1.isCancelled source = false :=
    fun source hsource => by simpa [isCancelled] using hlive source hsource
  have hnone : ¬ (sources.any n.create.1.isCancelled) = true := by
    simpa [List.any_eq_false] using hsame
  have hself : (n.awaiting sources).isCancelled n.tokens.length = false := by
    rw [isCancelled_awaiting, isCancelled, token_of_length_le (Nat.le_refl _)]
  have hregister : ((n.awaiting sources).register n.tokens.length
      (.detach n.tokens.length sources)).1 =
        (n.awaiting sources).append n.tokens.length
          (.detach n.tokens.length sources) := by
    simp [register, hself]
  rw [merge_of_two_le htwo, if_neg hnone, foldl_register hsame, ← awaiting, hregister]

theorem Settled.merge {next : TokenNetwork α} {merged : TokenId}
    (hsettled : Settled merges asked n)
    (hsources : ∀ source ∈ sources, source < n.tokens.length)
    (htwo : 2 ≤ sources.length)
    (hmerge : n.merge sources = (next, some merged)) :
    Settled (merges ++ [⟨merged, sources⟩]) asked next := by
  by_cases hsome : ∃ source ∈ sources, n.isCancelled source = true
  · rw [TokenNetwork.merge_of_cancelled htwo hsome] at hmerge
    cases hmerge
    exact hsettled.merge_of_cancelled hsources hsome
  · have hlive : ∀ source ∈ sources, n.isCancelled source = false := by
      simpa using hsome
    rw [TokenNetwork.merge_of_live htwo hlive] at hmerge
    cases hmerge
    exact hsettled.merge_of_live hsources hlive

/-! ## Whole histories -/

/-- A network in which tokens were created, merged and cancelled: which tokens were
made of which others, and which ones somebody has cancelled.  Those to be merged
may be given more than once, may be merged themselves, and may be missing. -/
inductive Arises : TokenNetwork α → List TokenMerge → List TokenId → Prop where
  | new : Arises {} [] []
  | create {n : TokenNetwork α} {merges : List TokenMerge} {asked : List TokenId}
      (harises : Arises n merges asked) : Arises n.create.1 merges asked
  | merge {n next : TokenNetwork α} {merges : List TokenMerge} {asked : List TokenId}
      {merged : TokenId} (harises : Arises n merges asked)
      (given : List (Option TokenId))
      (hgiven : ∀ id ∈ given.reduceOption, id < n.tokens.length)
      (htwo : 2 ≤ given.reduceOption.length)
      (hmerge : n.merge given.reduceOption = (next, some merged)) :
      Arises next (merges ++ [⟨merged, given.reduceOption⟩]) asked
  | cancel {n : TokenNetwork α} {merges : List TokenMerge} {asked : List TokenId}
      {id : TokenId} (harises : Arises n merges asked)
      (hlt : id < n.tokens.length) :
      Arises (n.cancel id) merges (asked ++ [id])

theorem Arises.settled (harises : Arises n merges asked) :
    Settled merges asked n := by
  induction harises with
  | new => exact settled_new
  | create _ ih => exact ih.create
  | merge _ given hgiven htwo hmerge ih => exact ih.merge hgiven htwo hmerge
  | cancel _ hlt ih => exact ih.cancel hlt

theorem exists_merge (htwo : 2 ≤ sources.length) :
    ∃ next, n.merge sources = (next, some n.tokens.length) := by
  by_cases hsome : ∃ source ∈ sources, n.isCancelled source = true
  · exact ⟨_, merge_of_cancelled htwo hsome⟩
  · exact ⟨_, merge_of_live htwo (by simpa using hsome)⟩

end

/-- A token is told to cancel by tokens that are older. -/
theorem Fires.of_concat {size : Nat} {last : TokenId}
    (hordered : Ordered merges size) (hfires : Fires merges (asked ++ [last]) id) :
    Fires merges asked id ∨ last ≤ id := by
  induction hfires with
  | asked hmem =>
      rcases List.mem_append.mp hmem with hold | hnew
      · exact .inl (.asked hold)
      · exact .inr (Nat.le_of_eq (List.mem_singleton.mp hnew).symm)
  | @merged m source hm hsource _ ih =>
      rcases ih with hfires | hle
      · exact .inl (.merged hm hsource hfires)
      · exact .inr (Nat.le_trans hle (Nat.le_of_lt (hordered.source_lt m hm source hsource)))

variable [DecidableEq α]

/-- Two tokens or more can always be merged.  The tokens that are cancelled are
those that have to be; a merged token never cancels its sources; and a token that is
not cancelled holds the registrations of those that wait for it, and no others. -/
theorem merged_tokens_exact (harises : Arises n merges asked) :
    (∀ given : List (Option TokenId), 2 ≤ given.reduceOption.length →
      ∃ next, n.merge given.reduceOption = (next, some n.tokens.length)) ∧
    (∀ id, n.isCancelled id = true ↔ Fires merges asked id) ∧
    (∀ m ∈ merges, ∀ source ∈ m.sources,
      (n.cancel m.merged).isCancelled source = n.isCancelled source) ∧
    ∀ id, id < n.tokens.length → n.isCancelled id = false →
      (n.token id).callbacks =
        (merges.filter fun m => !n.isCancelled m.merged).flatMap
          (·.registrations id) := by
  have hsettled := harises.settled
  have hordered := hsettled.ordered
  refine ⟨fun given htwo => exists_merge htwo, hsettled.cancelled, ?_, hsettled.held⟩
  intro m hm source hsource
  have hafter := hsettled.cancel (hordered.merged_lt m hm)
  rw [Bool.eq_iff_iff]
  constructor
  · intro hcancelled
    have hfires := (hafter.cancelled source).mp hcancelled
    have holder : ¬ m.merged ≤ source :=
      Nat.not_le.mpr (hordered.source_lt m hm source hsource)
    exact (hsettled.cancelled source).mpr
      ((hfires.of_concat hordered).resolve_right holder)
  · exact (advances_cancel n m.merged).cancelled source

/-- Two tokens are merged, the result is merged again, and one of the merged tokens
is cancelled: the one that was made of it goes with it, its own sources stay. -/
theorem merged_tokens_exact_diamond :
    ∃ n : TokenNetwork Nat,
      Arises n [⟨2, [0, 1, 0]⟩, ⟨3, [2, 0]⟩, ⟨4, [1, 0]⟩] [2] ∧
      n.isCancelled 3 = true ∧ n.isCancelled 0 = false ∧
      (n.token 0).callbacks = [.cancel 4] ∧
      (n.token 4).callbacks = [.detach 4 [1, 0]] := by
  let two : TokenNetwork Nat := { tokens := [
    ⟨false, [.cancel 2, .cancel 2]⟩, ⟨false, [.cancel 2]⟩,
    ⟨false, [.detach 2 [0, 1, 0]]⟩] }
  let three : TokenNetwork Nat := { tokens := [
    ⟨false, [.cancel 2, .cancel 2, .cancel 3]⟩, ⟨false, [.cancel 2]⟩,
    ⟨false, [.detach 2 [0, 1, 0], .cancel 3]⟩, ⟨false, [.detach 3 [2, 0]]⟩] }
  let four : TokenNetwork Nat := { tokens := [
    ⟨false, [.cancel 2, .cancel 2, .cancel 3, .cancel 4]⟩,
    ⟨false, [.cancel 2, .cancel 4]⟩,
    ⟨false, [.detach 2 [0, 1, 0], .cancel 3]⟩,
    ⟨false, [.detach 3 [2, 0]]⟩,
    ⟨false, [.detach 4 [1, 0]]⟩] }
  have htwo : Arises two [⟨2, [0, 1, 0]⟩] [] :=
    Arises.new.create.create.merge [some 0, none, some 1, some 0]
      (by decide) (by decide) rfl
  have hthree : Arises three [⟨2, [0, 1, 0]⟩, ⟨3, [2, 0]⟩] [] :=
    htwo.merge [some 2, some 0] (by decide) (by decide) rfl
  have hfour : Arises four [⟨2, [0, 1, 0]⟩, ⟨3, [2, 0]⟩, ⟨4, [1, 0]⟩] [] :=
    hthree.merge [some 1, some 0] (by decide) (by decide) rfl
  have hafter : Arises (four.cancel 2)
      [⟨2, [0, 1, 0]⟩, ⟨3, [2, 0]⟩, ⟨4, [1, 0]⟩] [2] := hfour.cancel (by decide)
  obtain ⟨-, hcancelled, -, hheld⟩ := merged_tokens_exact hafter
  have hlength : 5 ≤ (four.cancel 2).tokens.length := (advances_cancel four 2).length_le
  have hzero : ¬ Fires [⟨2, [0, 1, 0]⟩, ⟨3, [2, 0]⟩, ⟨4, [1, 0]⟩] [2] 0 := by
    rw [fires_iff]
    simp
  have hone : ¬ Fires [⟨2, [0, 1, 0]⟩, ⟨3, [2, 0]⟩, ⟨4, [1, 0]⟩] [2] 1 := by
    rw [fires_iff]
    simp
  have hlast : ¬ Fires [⟨2, [0, 1, 0]⟩, ⟨3, [2, 0]⟩, ⟨4, [1, 0]⟩] [2] 4 := by
    rw [fires_iff]
    simp [hzero, hone]
  have hboth : (four.cancel 2).isCancelled 2 = true ∧
      (four.cancel 2).isCancelled 3 = true := by
    have htold : Fires [⟨2, [0, 1, 0]⟩, ⟨3, [2, 0]⟩, ⟨4, [1, 0]⟩] [2] 2 :=
      .asked (by simp)
    refine ⟨(hcancelled 2).mpr htold, (hcancelled 3).mpr ?_⟩
    exact .merged (m := ⟨3, [2, 0]⟩) (by simp) List.mem_cons_self htold
  rw [← hcancelled, Bool.not_eq_true] at hzero hlast
  refine ⟨four.cancel 2, hafter, hboth.2, hzero, ?_, ?_⟩
  · rw [hheld 0 (Nat.lt_of_lt_of_le (by decide) hlength) hzero]
    simp [hboth, hlast, TokenMerge.registrations]
  · rw [hheld 4 (Nat.lt_of_lt_of_le (by decide) hlength) hlast]
    simp [hboth, hlast, TokenMerge.registrations]

end TokenNetwork

end RequestBreakdown
