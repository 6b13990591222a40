import Mathlib.Data.List.Nodup
import RequestBreakdown.Limiter.Basic

/-!
# First come, first served

A log of who asked for a slot, who was admitted and who gave up, together with the
line of those who still wait at its end.  A new request comes last in the line, and
only the first can be admitted.  So nobody is admitted before those who asked
earlier, unless they have given up.
-/

namespace RequestBreakdown

/-- What a task does at the limiter, or what is done to it. -/
inductive Passage where
  | asked (ticket : Ticket)
  | admitted (ticket : Ticket)
  | gaveUp (ticket : Ticket)
  deriving DecidableEq, Repr

namespace Passage

def ticket : Passage → Ticket
  | .asked ticket | .admitted ticket | .gaveUp ticket => ticket

def asker? : Passage → Option Ticket
  | .asked ticket => some ticket
  | .admitted _ | .gaveUp _ => none

def askers (log : List Passage) : List Ticket := log.filterMap asker?

theorem mem_askers {log : List Passage} {ticket : Ticket} :
    ticket ∈ askers log ↔ .asked ticket ∈ log := by
  rw [askers, List.mem_filterMap]
  constructor
  · rintro ⟨passage, hmem, hasker⟩
    cases passage with
    | asked other => exact Option.some.inj hasker ▸ hmem
    | admitted other => simp [asker?] at hasker
    | gaveUp other => simp [asker?] at hasker
  · exact fun hmem => ⟨.asked ticket, hmem, rfl⟩

@[simp] theorem askers_asked (log : List Passage) (ticket : Ticket) :
    askers (log ++ [.asked ticket]) = askers log ++ [ticket] := by
  simp [askers, asker?]

@[simp] theorem askers_admitted (log : List Passage) (ticket : Ticket) :
    askers (log ++ [.admitted ticket]) = askers log := by
  simp [askers, asker?]

@[simp] theorem askers_gaveUp (log : List Passage) (ticket : Ticket) :
    askers (log ++ [.gaveUp ticket]) = askers log := by
  simp [askers, asker?]

end Passage

open Passage (askers)

/-- A log, and the line of those who still wait at its end. -/
inductive FirstCome : List Passage → List Ticket → Prop where
  | nobody : FirstCome [] []
  | asked {log : List Passage} {line : List Ticket} {ticket : Ticket}
      (hcome : FirstCome log line) (hnew : .asked ticket ∉ log) :
      FirstCome (log ++ [.asked ticket]) (line ++ [ticket])
  | admitted {log : List Passage} {line : List Ticket} {ticket : Ticket}
      (hcome : FirstCome log (ticket :: line)) :
      FirstCome (log ++ [.admitted ticket]) line
  | gaveUp {log : List Passage} {line : List Ticket} {ticket : Ticket}
      (hcome : FirstCome log line) (hwaits : ticket ∈ line) :
      FirstCome (log ++ [.gaveUp ticket]) (line.filter (· ≠ ticket))

namespace FirstCome

variable {log : List Passage} {line : List Ticket} {ticket : Ticket}

theorem line_sublist (hcome : FirstCome log line) : line.Sublist (askers log) := by
  induction hcome with
  | nobody => exact List.nil_sublist _
  | asked hcome hnew ih =>
      rw [Passage.askers_asked]
      exact ih.append (List.Sublist.refl _)
  | admitted hcome ih =>
      rw [Passage.askers_admitted]
      exact (List.sublist_cons_self _ _).trans ih
  | gaveUp hcome hwaits ih =>
      rw [Passage.askers_gaveUp]
      exact List.filter_sublist.trans ih

theorem nodup_askers (hcome : FirstCome log line) : (askers log).Nodup := by
  induction hcome with
  | nobody => exact List.nodup_nil
  | asked hcome hnew ih =>
      rw [Passage.askers_asked, ← List.concat_eq_append]
      exact ih.concat (fun hmem => hnew (Passage.mem_askers.mp hmem))
  | admitted hcome ih => simpa using ih
  | gaveUp hcome hwaits ih => simpa using ih

/-- Whoever has asked waits, was admitted or has given up. -/
theorem asked_cases (hcome : FirstCome log line) (hasked : .asked ticket ∈ log) :
    ticket ∈ line ∨ .admitted ticket ∈ log ∨ .gaveUp ticket ∈ log := by
  induction hcome with
  | nobody => simp at hasked
  | @asked log line other hcome hnew ih =>
      rcases List.mem_append.mp hasked with hold | hlast
      · rcases ih hold with hline | hlog | hlog <;> simp [*]
      · have heq : ticket = other := by simpa using hlast
        simp [heq]
  | @admitted log line other hcome ih =>
      have hold : .asked ticket ∈ log := by simpa using hasked
      rcases ih hold with hline | hlog | hlog
      · rcases List.mem_cons.mp hline with heq | hline <;> simp [*]
      · simp [hlog]
      · simp [hlog]
  | @gaveUp log line other hcome hwaits ih =>
      have hold : .asked ticket ∈ log := by simpa using hasked
      by_cases heq : ticket = other
      · simp [heq]
      · rcases ih hold with hline | hlog | hlog <;> simp [*]

theorem asked_of_admitted (hcome : FirstCome log line)
    (hadmitted : .admitted ticket ∈ log) : .asked ticket ∈ log := by
  induction hcome with
  | nobody => simp at hadmitted
  | asked hcome hnew ih =>
      have hold := ih (by simpa using hadmitted)
      exact List.mem_append_left _ hold
  | @admitted log line other hcome ih =>
      apply List.mem_append_left
      rcases List.mem_append.mp hadmitted with hold | hlast
      · exact ih hold
      · have heq : ticket = other := by simpa using hlast
        rw [heq]
        exact Passage.mem_askers.mp (hcome.line_sublist.subset List.mem_cons_self)
  | gaveUp hcome hwaits ih =>
      have hold := ih (by simpa using hadmitted)
      exact List.mem_append_left _ hold

end FirstCome

/-- In a list without repetitions one comes before another only one way round. -/
theorem not_pair_sublist_swap {α : Type} {l : List α} {a b : α} (hnodup : l.Nodup)
    (hpair : [a, b].Sublist l) : ¬ [b, a].Sublist l := by
  intro hswap
  induction l with
  | nil => simp at hpair
  | cons x rest ih =>
      obtain ⟨hnew, hrest⟩ := List.nodup_cons.mp hnodup
      rcases List.sublist_cons_iff.mp hpair with hlater | ⟨_, heq, hback⟩
      · rcases List.sublist_cons_iff.mp hswap with hlater' | ⟨_, heq, hback⟩
        · exact ih hrest hlater hlater'
        · obtain ⟨rfl, rfl⟩ := List.cons.inj heq
          exact hnew (hlater.mem (by simp))
      · obtain ⟨rfl, rfl⟩ := List.cons.inj heq
        have hlast : b ∈ rest := hback.mem List.mem_cons_self
        rcases List.sublist_cons_iff.mp hswap with hlater | ⟨_, heq, -⟩
        · exact hnew (hlater.mem (by simp))
        · obtain ⟨rfl, -⟩ := List.cons.inj heq
          exact hnew hlast

/-- What comes last in a log that is not the later of two requests leaves them as they were. -/
theorem asked_pair_of_append {log : List Passage} {passage : Passage}
    {first second : Ticket} (hne : passage ≠ .asked second)
    (hpair : [.asked first, .asked second].Sublist (log ++ [passage])) :
    [.asked first, .asked second].Sublist log := by
  obtain ⟨front, back, heq, hfront, hback⟩ := List.sublist_append_iff.mp hpair
  rcases List.sublist_singleton.mp hback with rfl | rfl
  · simpa [heq] using hfront
  · have hlast := congrArg List.getLast? heq
    rw [List.getLast?_append] at hlast
    exact absurd (Option.some.inj hlast).symm hne

namespace FirstCome

variable {log : List Passage} {line : List Ticket} {first second ticket : Ticket}

/-- Whoever asked before the first in line waits no more. -/
theorem notMem_of_before (hcome : FirstCome log (ticket :: line))
    (hpair : [first, ticket].Sublist (askers log)) : first ∉ ticket :: line := by
  intro hmem
  have hnodup := hcome.nodup_askers
  have hline := hcome.line_sublist
  rcases List.mem_cons.mp hmem with rfl | hmem
  · simpa using hnodup.sublist hpair
  · have hswap : [ticket, first].Sublist (ticket :: line) :=
      (List.singleton_sublist.mpr hmem).cons_cons ticket
    exact not_pair_sublist_swap hnodup hpair (hswap.trans hline)

/-- Nobody is admitted before those who asked earlier and have not given up. -/
theorem fair (hcome : FirstCome log line)
    (hasked : [.asked first, .asked second].Sublist log)
    (hadmitted : .admitted second ∈ log) :
    [.admitted first, .admitted second].Sublist log ∨
      [.gaveUp first, .admitted second].Sublist log := by
  induction hcome with
  | nobody => simp at hadmitted
  | @asked log line other hcome hnew ih =>
      have hold : .admitted second ∈ log := by simpa using hadmitted
      have hne : Passage.asked other ≠ .asked second := by
        rintro heq
        exact hnew (heq ▸ hcome.asked_of_admitted hold)
      exact (ih (asked_pair_of_append hne hasked) hold).imp
        (·.trans (List.sublist_append_left ..)) (·.trans (List.sublist_append_left ..))
  | @admitted log line other hcome ih =>
      have hbefore := asked_pair_of_append (by simp) hasked
      rcases List.mem_append.mp hadmitted with hold | hlast
      · exact (ih hbefore hold).imp
          (·.trans (List.sublist_append_left ..)) (·.trans (List.sublist_append_left ..))
      · obtain rfl : second = other := by simpa using hlast
        have hpair : [first, second].Sublist (askers log) := hbefore.filterMap Passage.asker?
        have hfirst : .asked first ∈ log := hbefore.mem List.mem_cons_self
        rcases hcome.asked_cases hfirst with hline | hlog | hlog
        · exact absurd hline (hcome.notMem_of_before hpair)
        · exact .inl ((List.singleton_sublist.mpr hlog).append (List.Sublist.refl _))
        · exact .inr ((List.singleton_sublist.mpr hlog).append (List.Sublist.refl _))
  | gaveUp hcome hwaits ih =>
      have hold := by simpa using hadmitted
      exact (ih (asked_pair_of_append (by simp) hasked) hold).imp
        (·.trans (List.sublist_append_left ..)) (·.trans (List.sublist_append_left ..))

end FirstCome

/-! ## What an action adds -/

/-- What one action adds to the log, and how the line changes. -/
inductive Serves : List Ticket → List Passage → List Ticket → Prop where
  | nobody (line : List Ticket) : Serves line [] line
  | later (line : List Ticket) (ticket : Ticket) :
      Serves line [.asked ticket] (line ++ [ticket])
  | atOnce (ticket : Ticket) : Serves [] [.asked ticket, .admitted ticket] []
  | first (ticket : Ticket) (rest : List Ticket) :
      Serves (ticket :: rest) [.admitted ticket] rest
  | withdrawal (line : List Ticket) (ticket : Ticket) (hwaits : ticket ∈ line) :
      Serves line [.gaveUp ticket] (line.filter (· ≠ ticket))

variable {log added : List Passage} {line left : List Ticket} {ticket : Ticket}

theorem FirstCome.append (hcome : FirstCome log line) (hserves : Serves line added left)
    (hnew : ∀ ticket, .asked ticket ∈ added → .asked ticket ∉ log) :
    FirstCome (log ++ added) left := by
  cases hserves with
  | nobody => simpa using hcome
  | later _ ticket => exact hcome.asked (hnew ticket (by simp))
  | atOnce ticket =>
      have hasked := hcome.asked (hnew ticket (by simp))
      simpa using hasked.admitted
  | first ticket => exact hcome.admitted
  | withdrawal _ ticket hwaits => exact hcome.gaveUp hwaits

/-- Only when nobody waits is a newcomer admitted. -/
theorem Serves.line_eq_nil (hserves : Serves line added left)
    (hasked : .asked ticket ∈ added) (hadmitted : .admitted ticket ∈ added) : line = [] := by
  cases hserves with
  | nobody => simp at hasked
  | later => simp at hadmitted
  | atOnce => rfl
  | first => simp at hasked
  | withdrawal => simp at hasked

end RequestBreakdown
