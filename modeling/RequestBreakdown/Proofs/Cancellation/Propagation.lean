import Mathlib.Data.List.Nodup
import Mathlib.Logic.Function.Iterate
import RequestBreakdown.Proofs.Cancellation.Network

/-!
# How a cancellation spreads

A merged token is cancelled with the first of its sources.  Merged tokens are
merged again, so that a cancellation runs through a whole graph of tokens, while
those that it has reached take back what they registered with others.  What is
still to be done is on the agenda: every token that has to be cancelled is so
already or will be, and every registration that has lost its sense is still to
be taken back.
-/

namespace RequestBreakdown

/-- A token that was made of others. -/
structure TokenMerge where
  merged : TokenId
  sources : List TokenId
  deriving DecidableEq

namespace TokenMerge

variable {α : Type} {m : TokenMerge} {id : TokenId}

/-- What a token holds for a merged token: once for the merged token itself, and
for a source as often as it is one. -/
def registrations (m : TokenMerge) (id : TokenId) : List (Callback α) :=
  (if m.merged = id then [.detach m.merged m.sources] else []) ++
    List.replicate (m.sources.count id) (.cancel m.merged)

theorem cancel_mem_registrations {other : TokenId} :
    (.cancel other : Callback α) ∈ m.registrations id ↔
      other = m.merged ∧ id ∈ m.sources := by
  unfold registrations
  by_cases hself : m.merged = id <;>
    simp [hself, List.mem_replicate, List.count_eq_zero, and_comm]

theorem detach_mem_registrations {other : TokenId} {sources : List TokenId} :
    (.detach other sources : Callback α) ∈ m.registrations id ↔
      m.merged = id ∧ m = ⟨other, sources⟩ := by
  unfold registrations
  by_cases hself : m.merged = id
  · cases m
    simp_all [List.mem_replicate, eq_comm]
  · simp [hself, List.mem_replicate]

theorem notify_notMem_registrations {whom : α} :
    (.notify whom : Callback α) ∉ m.registrations id := by
  unfold registrations
  by_cases hself : m.merged = id <;> simp [hself, List.mem_replicate]

theorem registrations_of_ne (hne : m.merged ≠ id) :
    (m.registrations id : List (Callback α)) =
      List.replicate (m.sources.count id) (.cancel m.merged) := by
  simp [registrations, hne]

end TokenMerge

namespace TokenNetwork

variable {α : Type} {n : TokenNetwork α} {merges : List TokenMerge}
  {asked : List TokenId} {id : TokenId}

/-- The tokens that have to be cancelled: those that somebody cancels, and every
merged token that has one of them among its sources. -/
inductive Fires (merges : List TokenMerge) (asked : List TokenId) : TokenId → Prop where
  | asked {id : TokenId} (hasked : id ∈ asked) : Fires merges asked id
  | merged {m : TokenMerge} {source : TokenId} (hmerge : m ∈ merges)
      (hsource : source ∈ m.sources) (hfires : Fires merges asked source) :
      Fires merges asked m.merged

theorem Fires.mono {more : List TokenMerge} {others : List TokenId}
    (hfires : Fires merges asked id) (hmerges : ∀ m ∈ merges, m ∈ more)
    (hasked : ∀ id ∈ asked, id ∈ others) : Fires more others id := by
  induction hfires with
  | asked hmem => exact .asked (hasked _ hmem)
  | merged hmerge hsource _ ih => exact .merged (hmerges _ hmerge) hsource ih

theorem fires_iff : Fires merges asked id ↔ id ∈ asked ∨
    ∃ m ∈ merges, m.merged = id ∧ ∃ source ∈ m.sources, Fires merges asked source := by
  constructor
  · rintro (hasked | ⟨hmerge, hsource, hfires⟩)
    · exact .inl hasked
    · exact .inr ⟨_, hmerge, rfl, _, hsource, hfires⟩
  · rintro (hasked | ⟨m, hmerge, rfl, source, hsource, hfires⟩)
    · exact .asked hasked
    · exact .merged hmerge hsource hfires

/-! ## What tokens hold -/

/-- Merged tokens come after their sources, and each is made once. -/
structure Ordered (merges : List TokenMerge) (size : Nat) : Prop where
  nodup : (merges.map (·.merged)).Nodup
  merged_lt : ∀ m ∈ merges, m.merged < size
  source_lt : ∀ m ∈ merges, ∀ source ∈ m.sources, source < m.merged

/-- The registrations of some of the merged tokens. -/
def registered (attached : TokenMerge → Bool) (merges : List TokenMerge) (id : TokenId) :
    List (Callback α) :=
  (merges.filter attached).flatMap (·.registrations id)

theorem registered_congr {attached others : TokenMerge → Bool}
    (hsame : ∀ m ∈ merges, attached m = others m) :
    (registered attached merges id : List (Callback α)) =
      registered others merges id := by
  unfold registered
  rw [List.filter_congr hsame]

theorem registered_append {attached : TokenMerge → Bool} (more : List TokenMerge) :
    (registered attached (merges ++ more) id : List (Callback α)) =
      registered attached merges id ++ registered attached more id := by
  simp [registered]

theorem mem_registered {attached : TokenMerge → Bool} {callback : Callback α} :
    callback ∈ registered attached merges id ↔
      ∃ m ∈ merges, attached m = true ∧ callback ∈ m.registrations id := by
  simp [registered, and_assoc]

theorem registered_of_size_le {size : Nat} {attached : TokenMerge → Bool}
    (hordered : Ordered merges size) (hle : size ≤ id) :
    (registered attached merges id : List (Callback α)) = [] := by
  rw [registered, List.flatMap_eq_nil_iff]
  intro m hm
  have hmem := (List.mem_filter.mp hm).1
  have hlt : m.merged < id := Nat.lt_of_lt_of_le (hordered.merged_lt m hmem) hle
  have hsource : id ∉ m.sources := fun hsource =>
    Nat.lt_asymm hlt (hordered.source_lt m hmem id hsource)
  rw [TokenMerge.registrations_of_ne (Nat.ne_of_lt hlt), List.count_eq_zero.mpr hsource]
  rfl

section

variable [DecidableEq α]

theorem erase_append_iterate {front : List (Callback α)} {callback : Callback α}
    (hfront : callback ∉ front) (back : List (Callback α)) (count : Nat) :
    (·.erase callback)^[count] (front ++ back) =
      front ++ (·.erase callback)^[count] back := by
  induction count generalizing back with
  | zero => rfl
  | succ count ih =>
      simp only [Function.iterate_succ_apply, List.erase_append_right back hfront]
      exact ih _

theorem erase_replicate_iterate (callback : Callback α) (back : List (Callback α))
    (count : Nat) :
    (·.erase callback)^[count] (List.replicate count callback ++ back) = back := by
  induction count with
  | zero => rfl
  | succ count ih =>
      rw [Function.iterate_succ_apply, List.replicate_succ, List.cons_append,
        List.erase_cons_head]
      exact ih

/-- A merged token takes back its registrations, and no others. -/
theorem erase_registered {attached : TokenMerge → Bool} {m : TokenMerge}
    (hnodup : (merges.map (·.merged)).Nodup) (hmem : m ∈ merges)
    (hne : m.merged ≠ id) :
    (·.erase (.cancel m.merged))^[m.sources.count id]
        (registered attached merges id : List (Callback α)) =
      registered (fun other => attached other && other.merged != m.merged)
        merges id := by
  induction merges with
  | nil => simp at hmem
  | cons first rest ih =>
      rw [List.map_cons, List.nodup_cons] at hnodup
      have hothers : ∀ other ∈ rest, other.merged ≠ first.merged := by
        intro other hother heq
        exact hnodup.1 (heq ▸ List.mem_map_of_mem hother)
      have hsplit : ∀ p : TokenMerge → Bool,
          (registered p (first :: rest) id : List (Callback α)) =
            (if p first then first.registrations id else []) ++
              registered p rest id := by
        intro p
        cases hp : p first <;> simp [registered, hp]
      by_cases heq : m = first
      · subst heq
        have hrest : (registered (fun other =>
            attached other && other.merged != m.merged) rest id :
              List (Callback α)) = registered attached rest id :=
          registered_congr fun other hother => by simp [hothers other hother]
        have hnone : (.cancel m.merged : Callback α) ∉
            registered attached rest id := by
          rw [mem_registered]
          rintro ⟨other, hother, -, hcancel⟩
          rw [TokenMerge.cancel_mem_registrations] at hcancel
          exact hothers other hother hcancel.1.symm
        rw [hsplit, hsplit, hrest]
        cases hattached : attached m with
        | true =>
            rw [if_pos rfl, TokenMerge.registrations_of_ne hne, erase_replicate_iterate]
            simp
        | false =>
            simpa using Function.iterate_fixed (List.erase_of_not_mem hnone) _
      · have hrest : m ∈ rest := (List.mem_cons.mp hmem).resolve_left heq
        have hfirst : first.merged ≠ m.merged := (hothers m hrest).symm
        have hnone : (.cancel m.merged : Callback α) ∉
            (if attached first then first.registrations id else []) := by
          intro hcancel
          split at hcancel
          · rw [TokenMerge.cancel_mem_registrations] at hcancel
            exact hfirst hcancel.1.symm
          · simp at hcancel
        rw [hsplit, hsplit, erase_append_iterate hnone, ih hnodup.2 hrest]
        simp [hfirst]

end

/-! ## Several tokens at once -/

section

variable {change : List (Callback α) → List (Callback α)} (ids : List TokenId)

theorem length_changeAll :
    (ids.foldl (fun n id => n.withCallbacks id change) n).tokens.length =
      n.tokens.length := by
  induction ids generalizing n with
  | nil => rfl
  | cons first rest ih => exact ih.trans (length_withCallbacks ..)

theorem isCancelled_changeAll :
    (ids.foldl (fun n id => n.withCallbacks id change) n).isCancelled id =
      n.isCancelled id := by
  induction ids generalizing n with
  | nil => rfl
  | cons first rest ih => exact ih.trans (isCancelled_withCallbacks ..)

theorem callbacks_changeAll (hlt : id < n.tokens.length) :
    ((ids.foldl (fun n id => n.withCallbacks id change) n).token id).callbacks =
      change^[ids.count id] (n.token id).callbacks := by
  induction ids generalizing n with
  | nil => rfl
  | cons first rest ih =>
      have hrest := @ih (n.withCallbacks first change) (by simpa using hlt)
      rw [List.foldl_cons, hrest]
      by_cases heq : first = id
      · subst heq
        rw [callbacks_withCallbacks hlt, List.count_cons_self,
          Function.iterate_succ_apply]
      · rw [token_withCallbacks_of_ne heq, List.count_cons_of_ne heq]

end

/-! ## While a cancellation runs -/

/-- How far a cancellation has come.  The merged tokens that are attached still have
their registrations with their sources; what remains to be done is on the agenda. -/
structure Propagates (merges : List TokenMerge) (asked : List TokenId)
    (attached : TokenMerge → Bool) (n : TokenNetwork α) (agenda : List (Callback α)) :
    Prop where
  ordered : Ordered merges n.tokens.length
  fires : ∀ id, n.isCancelled id = true → Fires merges asked id
  reached : ∀ id ∈ asked, n.isCancelled id = true ∨ .cancel id ∈ agenda
  passed : ∀ m ∈ merges, ∀ source ∈ m.sources, n.isCancelled source = true →
    n.isCancelled m.merged = true ∨ .cancel m.merged ∈ agenda
  cancels : ∀ id, .cancel id ∈ agenda →
    id < n.tokens.length ∧ Fires merges asked id
  detaches : ∀ id sources, .detach id sources ∈ agenda →
    ⟨id, sources⟩ ∈ merges ∧ n.isCancelled id = true
  silent : ∀ whom, .notify whom ∉ agenda
  attached_of_live : ∀ m ∈ merges, n.isCancelled m.merged = false →
    attached m = true
  detach_mem : ∀ m ∈ merges, attached m = true →
    n.isCancelled m.merged = true → .detach m.merged m.sources ∈ agenda
  held : ∀ id, id < n.tokens.length → n.isCancelled id = false →
    (n.token id).callbacks = registered attached merges id

variable {attached : TokenMerge → Bool} {rest : List (Callback α)}

/-- A cancellation comes to a token that is cancelled already. -/
theorem Propagates.skip (hprop : Propagates merges asked attached n (.cancel id :: rest))
    (hcancelled : n.isCancelled id = true) :
    Propagates merges asked attached n rest := by
  have hrest : ∀ other, n.isCancelled other = true ∨
      .cancel other ∈ Callback.cancel id :: rest →
        n.isCancelled other = true ∨ .cancel other ∈ rest := by
    rintro other (hdone | hmem)
    · exact .inl hdone
    · rcases List.mem_cons.mp hmem with heq | hmem
      · obtain rfl : other = id := by injection heq
        exact .inl hcancelled
      · exact .inr hmem
  constructor
  case ordered => exact hprop.ordered
  case fires => exact hprop.fires
  case reached => exact fun other hother => hrest other (hprop.reached other hother)
  case passed =>
      exact fun m hm source hsource hdone =>
        hrest _ (hprop.passed m hm source hsource hdone)
  case cancels =>
      exact fun other hother => hprop.cancels other (List.mem_cons_of_mem _ hother)
  case detaches =>
      exact fun other sources hmem =>
        hprop.detaches other sources (List.mem_cons_of_mem _ hmem)
  case silent => exact fun whom hmem => hprop.silent whom (List.mem_cons_of_mem _ hmem)
  case attached_of_live => exact hprop.attached_of_live
  case detach_mem =>
      intro m hm hattached hdone
      simpa using hprop.detach_mem m hm hattached hdone
  case held => exact hprop.held

/-- A token is cancelled, and what it holds comes first on the agenda. -/
theorem Propagates.exhaust
    (hprop : Propagates merges asked attached n (.cancel id :: rest))
    (hlive : n.isCancelled id = false) :
    Propagates merges asked attached (n.exhaust id)
      ((n.token id).callbacks ++ rest) := by
  obtain ⟨hlt, hfires⟩ := hprop.cancels id List.mem_cons_self
  have hheld := hprop.held id hlt hlive
  have hdone : ∀ other, (n.exhaust id).isCancelled other = true ↔
      other = id ∨ n.isCancelled other = true := fun other =>
    isCancelled_exhaust_iff hlt
  have hsize : (n.exhaust id).tokens.length = n.tokens.length := by
    simp [TokenNetwork.exhaust]
  have hrest : ∀ other, n.isCancelled other = true ∨
      .cancel other ∈ Callback.cancel id :: rest →
        (n.exhaust id).isCancelled other = true ∨
          .cancel other ∈ (n.token id).callbacks ++ rest := by
    rintro other (hbefore | hmem)
    · exact .inl ((hdone other).mpr (.inr hbefore))
    · rcases List.mem_cons.mp hmem with heq | hmem
      · obtain rfl : other = id := by injection heq
        exact .inl ((hdone other).mpr (.inl rfl))
      · exact .inr (List.mem_append_right _ hmem)
  constructor
  case ordered =>
      rw [hsize]
      exact hprop.ordered
  case fires =>
      intro other hother
      rcases (hdone other).mp hother with rfl | hbefore
      · exact hfires
      · exact hprop.fires other hbefore
  case reached => exact fun other hother => hrest other (hprop.reached other hother)
  case passed =>
      intro m hm source hsource hother
      rcases (hdone source).mp hother with rfl | hbefore
      · -- A merged token that waits for this one is told of it.
        cases hmerged : n.isCancelled m.merged with
        | true => exact .inl ((hdone _).mpr (.inr hmerged))
        | false =>
            right
            rw [hheld, List.mem_append, mem_registered]
            exact .inl ⟨m, hm, hprop.attached_of_live m hm hmerged,
              TokenMerge.cancel_mem_registrations.mpr ⟨rfl, hsource⟩⟩
      · exact hrest _ (hprop.passed m hm source hsource hbefore)
  case cancels =>
      intro other hother
      rw [hsize]
      rw [hheld, List.mem_append, mem_registered] at hother
      rcases hother with ⟨m, hm, -, hcancel⟩ | hother
      · obtain ⟨rfl, hsource⟩ := TokenMerge.cancel_mem_registrations.mp hcancel
        exact ⟨hprop.ordered.merged_lt m hm, .merged hm hsource hfires⟩
      · exact hprop.cancels other (List.mem_cons_of_mem _ hother)
  case detaches =>
      intro other sources hother
      rw [hheld, List.mem_append, mem_registered] at hother
      rcases hother with ⟨m, hm, -, hdetach⟩ | hother
      · obtain ⟨hself, rfl⟩ := TokenMerge.detach_mem_registrations.mp hdetach
        exact ⟨hm, (hdone _).mpr (.inl hself)⟩
      · obtain ⟨hmem, hbefore⟩ :=
          hprop.detaches other sources (List.mem_cons_of_mem _ hother)
        exact ⟨hmem, (hdone _).mpr (.inr hbefore)⟩
  case silent =>
      intro whom hmem
      rw [hheld, List.mem_append, mem_registered] at hmem
      rcases hmem with ⟨m, -, -, hnotify⟩ | hmem
      · exact TokenMerge.notify_notMem_registrations hnotify
      · exact hprop.silent whom (List.mem_cons_of_mem _ hmem)
  case attached_of_live =>
      intro m hm hother
      refine hprop.attached_of_live m hm (Bool.eq_false_iff.mpr fun hbefore => ?_)
      rw [(hdone _).mpr (.inr hbefore)] at hother
      exact absurd hother (by decide)
  case detach_mem =>
      intro m hm hattached hother
      rcases (hdone _).mp hother with hself | hbefore
      · rw [hheld, List.mem_append, mem_registered]
        exact .inl ⟨m, hm, hattached,
          TokenMerge.detach_mem_registrations.mpr ⟨hself, rfl⟩⟩
      · have hmem := hprop.detach_mem m hm hattached hbefore
        exact List.mem_append_right _ (by simpa using hmem)
  case held =>
      intro other hother hstill
      rw [hsize] at hother
      have hne : id ≠ other := by
        rintro rfl
        rw [(hdone _).mpr (.inl rfl)] at hstill
        exact absurd hstill (by decide)
      rw [token_exhaust_of_ne hne]
      refine hprop.held other hother (Bool.eq_false_iff.mpr fun hbefore => ?_)
      rw [(hdone _).mpr (.inr hbefore)] at hstill
      exact absurd hstill (by decide)

section

variable [DecidableEq α]

/-- A merged token that is cancelled takes its registrations back. -/
theorem Propagates.detach {merged : TokenId} {sources : List TokenId}
    (hprop : Propagates merges asked attached n (.detach merged sources :: rest)) :
    Propagates merges asked (fun m => attached m && m.merged != merged)
      (n.detach merged sources) rest := by
  have hsize : (n.detach merged sources).tokens.length = n.tokens.length :=
    length_changeAll sources
  have hsame : ∀ other, (n.detach merged sources).isCancelled other =
      n.isCancelled other := fun other => isCancelled_changeAll sources
  obtain ⟨hmem, hcancelled⟩ := hprop.detaches merged sources List.mem_cons_self
  have hrest : ∀ other, n.isCancelled other = true ∨
      .cancel other ∈ Callback.detach merged sources :: rest →
        n.isCancelled other = true ∨ .cancel other ∈ rest := by
    rintro other (hdone | hother)
    · exact .inl hdone
    · exact .inr (by simpa using hother)
  constructor
  case ordered =>
      rw [hsize]
      exact hprop.ordered
  case fires =>
      simp only [hsame]
      exact hprop.fires
  case reached =>
      simp only [hsame]
      exact fun other hother => hrest other (hprop.reached other hother)
  case passed =>
      simp only [hsame]
      exact fun m hm source hsource hdone =>
        hrest _ (hprop.passed m hm source hsource hdone)
  case cancels =>
      rw [hsize]
      exact fun other hother => hprop.cancels other (List.mem_cons_of_mem _ hother)
  case detaches =>
      simp only [hsame]
      exact fun other others hother =>
        hprop.detaches other others (List.mem_cons_of_mem _ hother)
  case silent =>
      exact fun whom hother => hprop.silent whom (List.mem_cons_of_mem _ hother)
  case attached_of_live =>
      simp only [hsame]
      intro m hm hlive
      have hne : m.merged ≠ merged := by
        rintro rfl
        rw [hcancelled] at hlive
        exact absurd hlive (by decide)
      simp [hprop.attached_of_live m hm hlive, hne]
  case detach_mem =>
      simp only [hsame]
      intro m hm hattached hdone
      obtain ⟨hattached, hne⟩ : attached m = true ∧ m.merged ≠ merged := by
        simpa using hattached
      simpa [hne] using hprop.detach_mem m hm hattached hdone
  case held =>
      simp only [hsame, hsize]
      intro other hother hlive
      have hne : merged ≠ other := by
        rintro rfl
        rw [hcancelled] at hlive
        exact absurd hlive (by decide)
      refine (callbacks_changeAll sources hother).trans ?_
      rw [hprop.held other hother hlive]
      exact erase_registered hprop.ordered.nodup hmem hne

/-- A cancellation runs until nothing is left to be done. -/
theorem Propagates.run {agenda : List (Callback α)}
    (hprop : Propagates merges asked attached n agenda) :
    ∃ others, Propagates merges asked others (n.run agenda) [] := by
  fun_induction TokenNetwork.run n agenda generalizing attached with
  | case1 n => exact ⟨attached, hprop⟩
  -- Tokens that are only merged notify nobody.
  | case2 n whom rest =>
      exact absurd List.mem_cons_self (hprop.silent whom)
  | case3 n whom rest =>
      exact absurd List.mem_cons_self (hprop.silent whom)
  | case4 n whom rest =>
      exact absurd List.mem_cons_self (hprop.silent whom)
  | case5 n whom rest =>
      exact absurd List.mem_cons_self (hprop.silent whom)
  | case6 n merged sources rest ih => exact ih hprop.detach
  | case7 n id rest hnone ih =>
      have hlt := (hprop.cancels id List.mem_cons_self).1
      rw [List.getElem?_eq_getElem hlt] at hnone
      exact absurd hnone (by simp)
  | case8 n id rest t hfound hcancelled ih =>
      exact ih (hprop.skip (isCancelled_iff.mpr ⟨t, hfound, hcancelled⟩))
  | case9 n id rest t hfound hlive ih =>
      have htoken : n.token id = t := by
        simp [token, List.getD_eq_getElem?_getD, hfound]
      have hexhaust := hprop.exhaust (by simpa [isCancelled, htoken] using hlive)
      rw [htoken] at hexhaust
      exact ih hexhaust

end

end TokenNetwork

end RequestBreakdown
