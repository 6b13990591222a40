import Mathlib.Data.List.Induction
import RequestBreakdown.Proofs.Sql.Rendering
import RequestBreakdown.Proofs.Storage.ReadBack
import RequestBreakdown.Proofs.Value.Sameness

/-!
# What the store of fragments remembers

Fragments are loaded and rendered while their files are written, and from time to time
the cache is cleared.  The first time since then that a fragment is asked for and its file
can be read decides what its text is, whatever is written later.  Rendering asks for its
fragment before it looks for values, so it does not matter whether all values are there.
-/

namespace RequestBreakdown

/-- What is done with a store of fragments, and with the files that it reads. -/
inductive FragmentAction where
  | write (file : Path) (text : String)
  | load (name : String)
  | render (name : String) (values : Value)
  | clear

/-- The fragment that is asked for. -/
def FragmentAction.fragment? : FragmentAction → Option String
  | .load name | .render name _ => some name
  | .write .. | .clear => none

namespace FragmentStore

open FragmentAction

/-- The store after an action.  A file that cannot be written stays as it is. -/
def after (s : FragmentStore) : FragmentAction → FragmentStore
  | .write file text => (s.write file text).toOption.getD s
  | .load name => (s.load (.text name)).1
  | .render name values => (s.render (.text name) values).1
  | .clear => s.clearCache

def run (s : FragmentStore) (actions : List FragmentAction) : FragmentStore :=
  actions.foldl after s

/-- What can be read from the file of a fragment after some actions. -/
def contentAfter (s : FragmentStore) (actions : List FragmentAction) (name : String) :
    Except Fault String :=
  (s.run actions).readFile (.text name)

/-- Since the cache was cleared for the last time, the file of the fragment had this text
when the fragment was asked for, and it could not be read at any time before that at which
the fragment was asked for. -/
def FirstFound (s : FragmentStore) (actions : List FragmentAction) (name text : String) :
    Prop :=
  ∃ before action rest, actions = before ++ action :: rest ∧
    action.fragment? = some name ∧ .clear ∉ rest ∧ s.contentAfter before name = .ok text ∧
    ∀ front other back, before = front ++ other :: back → other.fragment? = some name →
      .clear ∉ back → ∀ content, s.contentAfter front name ≠ .ok content

variable {s : FragmentStore} {actions : List FragmentAction} {action : FragmentAction}
  {name other text : String}

/-! ## One action -/

def remember (s : FragmentStore) (name text : String) : FragmentStore :=
  { s with cache := s.cache ++ [(.text name, text)] }

/-- What loading comes to: the text is remembered, or it is read and remembered from then
on, or it cannot be read. -/
theorem load_cases (s : FragmentStore) (name : String) :
    (∃ text, s.cached? (.text name) = some text ∧ s.load (.text name) = (s, .ok text)) ∨
    (s.cached? (.text name) = none ∧ ∃ text, s.readFile (.text name) = .ok text ∧
      s.load (.text name) = (s.remember name text, .ok text)) ∨
    (s.cached? (.text name) = none ∧ ∃ fault, s.readFile (.text name) = .error fault ∧
      s.load (.text name) = (s, .error fault)) := by
  unfold load
  simp only [Value.asName]
  cases hcached : s.cached? (.text name) with
  | some text => exact .inl ⟨text, rfl, rfl⟩
  | none =>
      cases hread : s.readFile (.text name) with
      | ok text => exact .inr (.inl ⟨rfl, text, rfl, rfl⟩)
      | error fault => exact .inr (.inr ⟨rfl, fault, rfl, rfl⟩)

theorem cached?_remember (s : FragmentStore) (name text other : String) :
    (s.remember name text).cached? (.text other) =
      (s.cached? (.text other)).or (if name = other then some text else none) := by
  have hsame : (Value.text name).same (.text other) = decide (name = other) := by
    rw [Bool.eq_iff_iff, Value.same_text, decide_eq_true_iff]
  simp only [cached?, remember, List.find?_append, List.find?_singleton, hsame,
    decide_eq_true_eq, Option.map_or]
  congr 1
  split <;> rfl

/-- The text that loading comes to is remembered, and no other. -/
theorem load_eq_ok_iff : (s.load (.text name)).2 = .ok text ↔
    (s.load (.text name)).1.cached? (.text name) = some text := by
  rcases s.load_cases name with
    ⟨found, hcached, hload⟩ | ⟨hnone, found, -, hload⟩ | ⟨hnone, fault, -, hload⟩
  · simp [hload, hcached]
  · simp [hload, cached?_remember, hnone]
  · simp [hload, hnone]

theorem cached?_load_self (s : FragmentStore) (name : String) :
    (s.load (.text name)).1.cached? (.text name) =
      (s.cached? (.text name)).or (s.readFile (.text name)).toOption := by
  rcases s.load_cases name with
    ⟨found, hcached, hload⟩ | ⟨hnone, found, hread, hload⟩ | ⟨hnone, fault, hread, hload⟩
  · rw [hload, hcached, Option.some_or]
  · rw [hload, cached?_remember, hnone, hread, if_pos rfl]
    rfl
  · rw [hload, hnone, hread]
    rfl

theorem cached?_load_of_ne (hne : name ≠ other) :
    (s.load (.text name)).1.cached? (.text other) = s.cached? (.text other) := by
  rcases s.load_cases name with
    ⟨found, -, hload⟩ | ⟨-, found, -, hload⟩ | ⟨-, fault, -, hload⟩
  · rw [hload]
  · rw [hload, cached?_remember, if_neg hne, Option.or_none]
  · rw [hload]

/-- Writing changes the files only. -/
theorem exists_of_write {file : Path} {content : String} {written : FragmentStore}
    (hwrite : s.write file content = .ok written) :
    file.hasNul = false ∧ ∃ storage, s.storage.write file content = .ok storage ∧
      written = { s with storage } := by
  unfold write at hwrite
  cases hname : file.hasNul with
  | true =>
      rw [if_pos hname] at hwrite
      cases hwrite
  | false =>
      rw [if_neg (by simp [hname])] at hwrite
      refine ⟨rfl, ?_⟩
      cases hstorage : s.storage.write file content with
      | error fault =>
          rw [hstorage] at hwrite
          cases hwrite
      | ok storage =>
          rw [hstorage] at hwrite
          exact ⟨storage, rfl, (Except.ok.inj hwrite).symm⟩

theorem cached?_after_clear (s : FragmentStore) (name : String) :
    (s.after .clear).cached? (.text name) = none :=
  rfl

theorem cached?_after_asked (s : FragmentStore) (hasked : action.fragment? = some name) :
    (s.after action).cached? (.text name) =
      (s.cached? (.text name)).or (s.readFile (.text name)).toOption := by
  cases action with
  | write file content => cases hasked
  | load asked =>
      obtain rfl := Option.some.inj hasked
      exact s.cached?_load_self asked
  | render asked values =>
      obtain rfl := Option.some.inj hasked
      exact s.cached?_load_self asked
  | clear => cases hasked

/-- What is remembered of a fragment changes only when it is asked for, or when the cache
is cleared. -/
theorem cached?_after_other (s : FragmentStore) (hother : action.fragment? ≠ some name)
    (hkept : action ≠ .clear) :
    (s.after action).cached? (.text name) = s.cached? (.text name) := by
  cases action with
  | write file content =>
      cases hwrite : s.write file content with
      | error fault => rw [after, hwrite, Except.toOption, Option.getD_none]
      | ok written =>
          obtain ⟨-, storage, -, rfl⟩ := exists_of_write hwrite
          rw [after, hwrite, Except.toOption, Option.getD_some]
          rfl
  | load asked => exact cached?_load_of_ne fun heq => hother (congrArg some heq)
  | render asked values => exact cached?_load_of_ne fun heq => hother (congrArg some heq)
  | clear => exact absurd rfl hkept

/-! ## The first time -/

/-- An action that stands among others and one more stands among the others, or it is the
last one. -/
theorem append_singleton_eq_append_cons {α : Type} {items before rest : List α}
    {item last : α} (hsplit : items ++ [last] = before ++ item :: rest) :
    (before = items ∧ item = last ∧ rest = []) ∨
      ∃ others, rest = others ++ [last] ∧ items = before ++ item :: others := by
  rcases List.eq_nil_or_concat rest with rfl | ⟨others, final, rfl⟩
  · obtain ⟨rfl, hlast⟩ := List.append_inj' hsplit rfl
    exact .inl ⟨rfl, (List.singleton_inj.mp hlast).symm, rfl⟩
  · rw [List.concat_eq_append, ← List.cons_append, ← List.append_assoc] at hsplit
    obtain ⟨hitems, hlast⟩ := List.append_inj' hsplit rfl
    obtain rfl := List.singleton_inj.mp hlast
    exact .inr ⟨others, List.concat_eq_append, hitems⟩

/-- If the file was found at any time, there is a first time. -/
theorem exists_firstFound {front back : List FragmentAction} {content : String}
    (hasked : action.fragment? = some name) (hkept : .clear ∉ back)
    (hcontent : s.contentAfter front name = .ok content) :
    ∃ text, s.FirstFound (front ++ action :: back) name text := by
  induction hlength : front.length using Nat.strong_induction_on
    generalizing front action back content with
  | _ length ih =>
      by_cases hfirst : ∀ earlier other between, front = earlier ++ other :: between →
          other.fragment? = some name → .clear ∉ between →
            ∀ content, s.contentAfter earlier name ≠ .ok content
      · exact ⟨content, front, action, back, rfl, hasked, hkept, hcontent, hfirst⟩
      · push Not at hfirst
        obtain ⟨earlier, other, between, rfl, hother, hbetween, found, hfound⟩ := hfirst
        have hnotClear : action ≠ .clear := by
          rintro rfl
          cases hasked
        have hkept' : .clear ∉ between ++ action :: back := by
          simp [hbetween, hkept, hnotClear.symm]
        have hless : earlier.length < length := by
          rw [← hlength, List.length_append, List.length_cons]
          omega
        rw [List.append_assoc, List.cons_append]
        exact ih earlier.length hless hother hkept' hfound rfl

theorem not_firstFound_clear : ¬ s.FirstFound (actions ++ [.clear]) name text := by
  rintro ⟨before, action, rest, hsplit, hasked, hkept, -⟩
  rcases append_singleton_eq_append_cons hsplit with ⟨-, rfl, -⟩ | ⟨others, rfl, -⟩
  · cases hasked
  · exact hkept (by simp)

/-- What was found first is found first whatever is done later, until the cache is
cleared. -/
theorem FirstFound.append (hfound : s.FirstFound actions name text)
    (hkept : action ≠ .clear) : s.FirstFound (actions ++ [action]) name text := by
  obtain ⟨before, asked, rest, rfl, hasked, hclear, hcontent, hfirst⟩ := hfound
  refine ⟨before, asked, rest ++ [action], by simp, hasked, ?_, hcontent, hfirst⟩
  simp [hclear, hkept.symm]

theorem firstFound_append_other (hother : action.fragment? ≠ some name)
    (hkept : action ≠ .clear) :
    s.FirstFound (actions ++ [action]) name text ↔ s.FirstFound actions name text := by
  refine ⟨?_, fun hfound => hfound.append hkept⟩
  rintro ⟨before, asked, rest, hsplit, hasked, hclear, hcontent, hfirst⟩
  rcases append_singleton_eq_append_cons hsplit with ⟨-, rfl, -⟩ | ⟨others, rfl, hactions⟩
  · exact absurd hasked hother
  · have hclear' : .clear ∉ others := fun hmem => hclear (List.mem_append_left _ hmem)
    exact ⟨before, asked, others, hactions, hasked, hclear', hcontent, hfirst⟩

theorem firstFound_append_asked (hasked : action.fragment? = some name) :
    s.FirstFound (actions ++ [action]) name text ↔
      s.FirstFound actions name text ∨
        ((∀ other, ¬ s.FirstFound actions name other) ∧
          s.contentAfter actions name = .ok text) := by
  constructor
  · rintro ⟨before, asked, rest, hsplit, hasked', hclear, hcontent, hfirst⟩
    rcases append_singleton_eq_append_cons hsplit with
      ⟨rfl, rfl, -⟩ | ⟨others, rfl, hactions⟩
    · refine .inr ⟨?_, hcontent⟩
      rintro found ⟨front, other, back, hbefore, hother, hback, hcontent', -⟩
      exact hfirst front other back hbefore hother hback found hcontent'
    · have hclear' : .clear ∉ others := fun hmem => hclear (List.mem_append_left _ hmem)
      exact .inl ⟨before, asked, others, hactions, hasked', hclear', hcontent, hfirst⟩
  · rintro (hfound | ⟨hnone, hcontent⟩)
    · refine hfound.append ?_
      rintro rfl
      cases hasked
    · refine ⟨actions, action, [], rfl, hasked, List.not_mem_nil, hcontent, ?_⟩
      rintro front other back rfl hother hback content hcontent'
      obtain ⟨found, hfound⟩ := exists_firstFound hother hback hcontent'
      exact hnone found hfound

theorem run_append (s : FragmentStore) (actions : List FragmentAction)
    (action : FragmentAction) : s.run (actions ++ [action]) = (s.run actions).after action := by
  rw [run, List.foldl_append]
  rfl

/-- If what is remembered is what was found first, it is so after one more action. -/
theorem cached?_after_iff
    (hnow : ∀ text, (s.run actions).cached? (.text name) = some text ↔
      s.FirstFound actions name text) (action : FragmentAction) (text : String) :
    ((s.run actions).after action).cached? (.text name) = some text ↔
      s.FirstFound (actions ++ [action]) name text := by
  by_cases hclear : action = .clear
  · subst hclear
    rw [cached?_after_clear]
    exact ⟨nofun, fun hfound => absurd hfound not_firstFound_clear⟩
  · by_cases hasked : action.fragment? = some name
    · have hnone : (s.run actions).cached? (.text name) = none ↔
          ∀ other, ¬ s.FirstFound actions name other := by
        simp only [Option.eq_none_iff_forall_ne_some, ne_eq, hnow]
      rw [cached?_after_asked _ hasked, firstFound_append_asked hasked,
        Option.or_eq_some_iff, hnow, hnone, contentAfter]
      cases (s.run actions).readFile (.text name) <;> simp [Except.toOption]
    · rw [cached?_after_other _ hasked hclear, firstFound_append_other hasked hclear, hnow]

/-- What is remembered is what was found first. -/
theorem cached?_run (hempty : s.cache = []) (actions : List FragmentAction)
    (name text : String) :
    (s.run actions).cached? (.text name) = some text ↔ s.FirstFound actions name text := by
  induction actions using List.reverseRecOn generalizing text with
  | nil =>
      have hnone : (s.run []).cached? (.text name) = none := by
        simp [run, cached?, hempty]
      rw [hnone]
      refine ⟨nofun, ?_⟩
      rintro ⟨before, action, rest, hsplit, -⟩
      simp at hsplit
  | append_singleton actions action ih =>
      rw [run_append]
      exact cached?_after_iff ih action text

/-! ## Files and values -/

/-- A file is read as it was written, but for its line ends, which all become line feeds. -/
theorem readFile_of_write {content : String} {written : FragmentStore}
    (hwrite : s.write (s.fileOf (.text name)) content = .ok written) :
    written.readFile (.text name) =
      .ok (String.ofList (Fragment.unifyLineEnds content.toList)) := by
  obtain ⟨hname, storage, hstorage, rfl⟩ := exists_of_write hwrite
  have hread : storage.read (s.fileOf (.text name)) = .ok (some content) :=
    Storage.read_of_write hname hstorage
  unfold readFile
  dsimp only
  rw [fileOf] at hread ⊢
  rw [hread]

theorem readFile_of_missing
    (hmissing : s.storage.contains (s.fileOf (.text name)) = .ok false) :
    s.readFile (.text name) = .error (.missingFragment (s.fileOf (.text name)).text) := by
  have hread : s.storage.read (s.fileOf (.text name)) = .ok none := by
    unfold Storage.contains at hmissing
    unfold Storage.read
    cases hlocate : s.storage.locate (s.fileOf (.text name)) with
    | error fault =>
        rw [hlocate] at hmissing
        cases hmissing
    | ok place =>
        rw [hlocate] at hmissing
        cases place with
        | none => rfl
        | some place => cases hmissing
  simp only [readFile, hread]

/-- A fragment that is not remembered is looked for where there is no file. -/
theorem load_of_missing (hnone : s.cached? (.text name) = none)
    (hmissing : s.storage.contains (s.fileOf (.text name)) = .ok false) :
    s.load (.text name) = (s, .error (.missingFragment (s.fileOf (.text name)).text)) := by
  rcases s.load_cases name with
    ⟨text, hcached, -⟩ | ⟨-, text, hread, -⟩ | ⟨-, fault, hread, hload⟩
  · rw [hnone] at hcached
    cases hcached
  · rw [readFile_of_missing hmissing] at hread
    cases hread
  · rw [readFile_of_missing hmissing] at hread
    rw [hload, ← Except.error.inj hread]

/-- Rendering asks for the fragment first, so a fault of loading is one of rendering. -/
theorem render_of_load_error {fault : Fault} (values : Value)
    (hload : s.load (.text name) = (s, .error fault)) :
    s.render (.text name) values = (s, .error fault) := by
  rw [render, hload]
  rfl

/-- A marker without a value is the fault of rendering. -/
theorem render_of_missing {template key : String} {fields : List (String × Value)}
    (hload : (s.load (.text name)).2 = .ok template)
    (hkey : key ∈ Template.markerNames template.toList) (hmissing : fields.lookup key = none) :
    ∃ key ∈ Template.markerNames template.toList, fields.lookup key = none ∧
      (s.render (.text name) (.record fields)).2 =
        .error (.missingPlaceholder key name) := by
  have hrender := render_eq hload (Template.divides_parse template.toList) fields
  cases hfirst : Template.firstWithout (texts fields)
      (Template.spans (Template.parse template.toList)).2 with
  | none =>
      obtain ⟨marker, hmarker, rfl⟩ := List.mem_map.mp hkey
      have hvalue := Template.firstWithout_eq_none.mp hfirst marker hmarker
      rw [lookup_texts, hmissing] at hvalue
      cases hvalue
  | some first =>
      rw [hfirst] at hrender
      refine ⟨first, List.mem_of_find?_eq_some hfirst, ?_, hrender⟩
      have hnone := List.find?_some hfirst
      rw [lookup_texts, Option.isNone_map, Option.isNone_iff_eq_none] at hnone
      exact hnone

/-- After any actions on a store that has not read anything before, loading a fragment
comes to the text that was found first since the cache was cleared, be it by this very
loading.  A fragment that is not remembered and has no file is a fault and changes
nothing; one that lacks a value is a fault of rendering, and remembered.  Whatever else is
done, other fragments asked for or files written, leaves what is remembered of it as it is,
and its file, when it is written, is read as it was written. -/
theorem load_coherent (hempty : s.cache = []) (actions : List FragmentAction)
    (name : String) :
    let now := s.run actions
    (∀ text, (now.load (.text name)).2 = .ok text ↔
      s.FirstFound (actions ++ [.load name]) name text) ∧
    (now.cached? (.text name) = none →
      now.storage.contains (now.fileOf (.text name)) = .ok false →
        now.load (.text name) =
          (now, .error (.missingFragment (now.fileOf (.text name)).text)) ∧
        ∀ values, now.render (.text name) values =
          (now, .error (.missingFragment (now.fileOf (.text name)).text))) ∧
    (∀ template key fields, (now.load (.text name)).2 = .ok template →
      key ∈ Template.markerNames template.toList → fields.lookup key = none →
        (∃ first ∈ Template.markerNames template.toList, fields.lookup first = none ∧
          (now.render (.text name) (.record fields)).2 =
            .error (.missingPlaceholder first name)) ∧
        (now.render (.text name) (.record fields)).1.cached? (.text name) =
          some template) ∧
    (∀ action : FragmentAction, action.fragment? ≠ some name → action ≠ .clear →
      (now.after action).cached? (.text name) = now.cached? (.text name)) ∧
    (∀ content written, now.write (now.fileOf (.text name)) content = .ok written →
      written.readFile (.text name) =
        .ok (String.ofList (Fragment.unifyLineEnds content.toList))) := by
  intro now
  refine ⟨fun text => ?_, ?_, ?_, ?_, ?_⟩
  · rw [load_eq_ok_iff, ← cached?_run hempty, run_append]
    rfl
  · intro hnone hmissing
    have hload := load_of_missing hnone hmissing
    exact ⟨hload, fun values => render_of_load_error values hload⟩
  · intro template key fields hload hkey hmissing
    exact ⟨render_of_missing hload hkey hmissing, load_eq_ok_iff.mp hload⟩
  · exact fun action hother hkept => cached?_after_other now hother hkept
  · exact fun content written hwrite => readFile_of_write hwrite

/-- Fragments in a directory that has no files yet. -/
def noFragments : FragmentStore :=
  { directory := ⟨"", ["fragments"]⟩, storage := { directories := [["fragments"]] } }

def hostsFile : Path := ⟨"", ["fragments", "hosts.sql"]⟩

/-- A fragment is written, asked for without a value for its marker, and written again. -/
def rewrittenHosts : List FragmentAction := [
  .write hostsFile "SELECT #COLUMN#", .render "hosts" (.record []), .write hostsFile "SELECT 2"]

theorem fileOf_hosts : noFragments.fileOf (.text "hosts") = hostsFile := by
  have hname : (Value.text "hosts").display ++ Fragment.fileEnding = "hosts.sql" := by decide
  have hread : Path.read "hosts.sql" = ⟨"", ["hosts.sql"]⟩ :=
    Path.read_of_notMem (by decide) (by decide) (by decide)
  rw [fileOf, hname, hread]
  rfl

theorem firstFound_rewrittenHosts :
    noFragments.FirstFound (rewrittenHosts ++ [.load "hosts"]) "hosts" "SELECT #COLUMN#" := by
  have hname : hostsFile.hasNul = false := by simp [hostsFile, Path.hasNul, Path.text]
  have hstorage : noFragments.storage.write hostsFile "SELECT #COLUMN#" =
      .ok (noFragments.storage.withFile ["fragments", "hosts.sql"] "SELECT #COLUMN#") := rfl
  have hwrite : noFragments.write (noFragments.fileOf (.text "hosts")) "SELECT #COLUMN#" =
      .ok { noFragments with
        storage := noFragments.storage.withFile ["fragments", "hosts.sql"] "SELECT #COLUMN#" } := by
    rw [fileOf_hosts, write, hname, hstorage]
    rfl
  have hcontent : noFragments.contentAfter [.write hostsFile "SELECT #COLUMN#"] "hosts" =
      .ok "SELECT #COLUMN#" := by
    have hlines : String.ofList (Fragment.unifyLineEnds "SELECT #COLUMN#".toList) =
        "SELECT #COLUMN#" := by decide
    have hread := readFile_of_write hwrite
    rw [fileOf_hosts] at hwrite
    rw [hlines] at hread
    simpa [contentAfter, run, after, hwrite, Except.toOption] using hread
  refine ⟨[.write hostsFile "SELECT #COLUMN#"], .render "hosts" (.record []),
    [.write hostsFile "SELECT 2", .load "hosts"], rfl, rfl, by simp, hcontent, ?_⟩
  intro front other back hbefore hasked
  rcases List.singleton_eq_append_iff.mp hbefore with ⟨-, honly⟩ | ⟨-, hnone⟩
  · obtain rfl := (List.cons.inj honly).1
    cases hasked
  · cases hnone

theorem load_coherent_rewrittenHosts :
    noFragments.cache = [] ∧
      noFragments.FirstFound (rewrittenHosts ++ [.load "hosts"]) "hosts" "SELECT #COLUMN#" ∧
      ((noFragments.run rewrittenHosts).load (.text "hosts")).2 = .ok "SELECT #COLUMN#" := by
  have hempty : noFragments.cache = [] := rfl
  have hload := (load_coherent hempty rewrittenHosts "hosts").1 "SELECT #COLUMN#"
  exact ⟨hempty, firstFound_rewrittenHosts, hload.mpr firstFound_rewrittenHosts⟩

end FragmentStore

end RequestBreakdown
