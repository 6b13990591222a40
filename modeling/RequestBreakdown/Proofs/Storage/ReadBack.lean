import Mathlib.Data.String.Basic
import RequestBreakdown.Proofs.Fault
import RequestBreakdown.Storage.Basic

/-!
# What was written is read

Writing a file takes nothing away from the places that lead to it: directories stay
directories, and so each way that existed exists still.  Therefore the path that a text was
written to leads to this text.
-/

namespace RequestBreakdown

namespace Path

open String

theorem splitOnAux_slash (front rest : List Char) (hrest : '/' ∉ rest) :
    splitOnAux (ofList (front ++ rest)) "/" 0 ⟨utf8Len front⟩ 0 [] =
      [ofList (front ++ rest)] := by
  induction rest generalizing front with
  | nil =>
      have hend : Pos.Raw.atEnd (ofList (front ++ [])) ⟨utf8Len front⟩ = true :=
        (atEnd_of_valid front []).mpr rfl
      have hall := extract_of_valid [] front []
      rw [splitOnAux, if_pos hend]
      simpa using hall
  | cons c rest ih =>
      obtain ⟨hc, hrest⟩ := not_or.mp (mt List.mem_cons.mpr hrest)
      have hmore : ¬ Pos.Raw.atEnd (ofList (front ++ c :: rest)) ⟨utf8Len front⟩ = true := by
        rw [atEnd_of_valid]
        exact List.cons_ne_nil _ _
      have hget : Pos.Raw.get (ofList (front ++ c :: rest)) ⟨utf8Len front⟩ = c :=
        get_of_valid ..
      have hslash : Pos.Raw.get "/" 0 = '/' := by decide
      have hother : (c == '/') = false := beq_false_of_ne (Ne.symm hc)
      have hstay : (⟨utf8Len front⟩ : Pos.Raw).unoffsetBy 0 = ⟨utf8Len front⟩ := rfl
      have hnext := next_of_valid front c rest
      have hgoesOn := ih (front ++ [c]) hrest
      rw [splitOnAux, if_neg hmore, hget, hslash, hother, hstay, hnext]
      simpa [utf8Len_append] using hgoesOn

/-- A text without a slash is a way of one step. -/
theorem read_of_notMem {text : String} (hslash : '/' ∉ text.toList) (hempty : text ≠ "")
    (hstay : text ≠ ".") : read text = ⟨"", [text]⟩ := by
  have hparts : text.splitOn "/" = [text] := by
    simpa [splitOn] using splitOnAux_slash [] text.toList hslash
  have hroot : text.toList.takeWhile (· == '/') = [] := by
    cases hchars : text.toList with
    | nil => rfl
    | cons c rest =>
        refine List.takeWhile_cons_of_neg fun hfirst => hslash ?_
        rw [hchars, ← eq_of_beq hfirst]
        exact List.mem_cons_self
  rw [read, rootOf, hparts, hroot]
  simp [hempty, hstay]

end Path

namespace Storage

variable {s written : Storage} {place other : List String} {text : String}

theorem lookup_filter_ne (files : List (List String × String)) (hne : other ≠ place) :
    (files.filter (·.1 != place)).lookup other = files.lookup other := by
  induction files with
  | nil => rfl
  | cons file rest ih =>
      obtain ⟨first, content⟩ := file
      by_cases hfirst : first = place
      · have hskipped : (other == first) = false := beq_false_of_ne (hfirst ▸ hne)
        simp [List.lookup_cons, hfirst ▸ hskipped, hfirst, ih]
      · simp [List.lookup_cons, hfirst, ih]

theorem isFile_withFile_self : (s.withFile place text).isFile place = true := by
  simp [isFile, withFile]

theorem isFile_withFile_of_ne (hne : other ≠ place) :
    (s.withFile place text).isFile other = s.isFile other := by
  have hskipped : (other == place) = false := beq_false_of_ne hne
  simp [isFile, withFile, List.lookup_cons, hskipped, lookup_filter_ne _ hne]

theorem isFile_withFile (hfile : s.isFile other = true) :
    (s.withFile place text).isFile other = true := by
  by_cases heq : other = place
  · rw [heq]
    exact isFile_withFile_self
  · rw [isFile_withFile_of_ne heq, hfile]

theorem mem_entries_withFile {entry : List String} (hentry : entry ∈ s.entries) :
    entry ∈ (s.withFile place text).entries := by
  rcases List.mem_append.mp hentry with hdirectory | hfile
  · exact List.mem_append_left _ hdirectory
  · apply List.mem_append_right
    by_cases heq : entry = place
    · exact heq ▸ List.mem_cons_self
    · obtain ⟨file, hmem, rfl⟩ := List.mem_map.mp hfile
      have hkept : file ∈ s.files.filter (·.1 != place) := by simp [hmem, heq]
      exact List.mem_cons_of_mem _ (List.mem_map_of_mem hkept)

/-- Only a directory could be lost, by a file in its place. -/
theorem isDirectory_withFile (hplace : s.isDirectory place = false)
    (hother : s.isDirectory other = true) :
    (s.withFile place text).isDirectory other = true := by
  have hne : other ≠ place := by
    rintro rfl
    rw [hplace] at hother
    cases hother
  unfold isDirectory at hother ⊢
  rw [isFile_withFile_of_ne hne]
  rcases Bool.or_eq_true_iff.mp hother with htop | hinside
  · rw [htop, Bool.true_or]
  · obtain ⟨hsome, hnoFile⟩ := Bool.and_eq_true_iff.mp hinside
    obtain ⟨entry, hentry, hprefix⟩ := List.any_eq_true.mp hsome
    have hsome' : ((s.withFile place text).entries.any other.isPrefixOf) = true :=
      List.any_eq_true.mpr ⟨entry, mem_entries_withFile hentry, hprefix⟩
    rw [hsome', hnoFile, Bool.and_self, Bool.or_true]

/-- A step leads where it led before. -/
theorem step_withFile (hplace : s.isDirectory place = false) {start next : List String}
    {part : String} (hstep : s.step start part = .ok next) :
    (s.withFile place text).step start part = .ok next := by
  cases hstart : s.isDirectory start with
  | false =>
      rw [step, hstart] at hstep
      cases hstep
  | true =>
      rw [step, hstart] at hstep
      rw [step, isDirectory_withFile hplace hstart]
      exact hstep

/-- Each step of a walk leads to something that exists. -/
theorem walk_cons_eq_ok {start next : List String} {part : String} {rest : List String} :
    s.walk start (part :: rest) = .ok next ↔
      ∃ reached, s.step start part = .ok reached ∧
        (s.isDirectory reached || s.isFile reached) = true ∧
        s.walk reached rest = .ok next := by
  rw [walk, bind_eq_ok]
  refine exists_congr fun reached => and_congr_right fun _ => ?_
  cases s.isDirectory reached || s.isFile reached with
  | false => exact ⟨nofun, nofun⟩
  | true => exact ⟨fun hrest => ⟨rfl, hrest⟩, And.right⟩

theorem exists_withFile (hplace : s.isDirectory place = false)
    (hexists : (s.isDirectory other || s.isFile other) = true) :
    ((s.withFile place text).isDirectory other ||
      (s.withFile place text).isFile other) = true := by
  rcases Bool.or_eq_true_iff.mp hexists with hdirectory | hfile
  · rw [isDirectory_withFile hplace hdirectory, Bool.true_or]
  · rw [isFile_withFile hfile, Bool.or_true]

theorem walk_withFile (hplace : s.isDirectory place = false) {start next : List String}
    {parts : List String} (hwalk : s.walk start parts = .ok next) :
    (s.withFile place text).walk start parts = .ok next := by
  induction parts generalizing start with
  | nil => exact hwalk
  | cons part rest ih =>
      obtain ⟨reached, hstep, hexists, hrest⟩ := walk_cons_eq_ok.mp hwalk
      exact walk_cons_eq_ok.mpr
        ⟨reached, step_withFile hplace hstep, exists_withFile hplace hexists, ih hrest⟩

/-- A walk is made longer by a step to something that exists. -/
theorem walk_append {start next reached : List String} {parts : List String}
    {part : String} (hwalk : s.walk start parts = .ok next)
    (hstep : s.step next part = .ok reached)
    (hexists : (s.isDirectory reached || s.isFile reached) = true) :
    s.walk start (parts ++ [part]) = .ok reached := by
  induction parts generalizing start with
  | nil =>
      obtain rfl : start = next := Except.ok.inj hwalk
      exact walk_cons_eq_ok.mpr ⟨reached, hstep, hexists, rfl⟩
  | cons first rest ih =>
      obtain ⟨between, hfirst, hbetween, hrest⟩ := walk_cons_eq_ok.mp hwalk
      exact walk_cons_eq_ok.mpr ⟨between, hfirst, hbetween, ih hrest⟩

/-- Where a text is written to: the place that the path leads to, where there is no
directory. -/
theorem write_eq_ok {p : Path} (hwrite : s.write p text = .ok written) :
    ¬ p.text.utf8ByteSize > longestPath ∧
      ∃ front name directory place, p.parts = front ++ [name] ∧
        s.walk [] front = .ok directory ∧ s.step directory name = .ok place ∧
        s.isDirectory place = false ∧ written = s.withFile place text := by
  unfold write at hwrite
  by_cases hlong : p.text.utf8ByteSize > longestPath
  · rw [if_pos hlong] at hwrite
    cases hwrite
  · rw [if_neg hlong] at hwrite
    refine ⟨hlong, ?_⟩
    rcases List.eq_nil_or_concat p.parts with hnone | ⟨front, name, hparts⟩
    · rw [hnone] at hwrite
      cases hwrite
    · rw [List.concat_eq_append] at hparts
      rw [hparts, List.getLast?_concat, List.dropLast_concat] at hwrite
      obtain ⟨directory, hwalk, hwrite⟩ := bind_eq_ok.mp hwrite
      obtain ⟨place, hstep, hwrite⟩ := bind_eq_ok.mp hwrite
      cases hplace : s.isDirectory place with
      | true =>
          rw [hplace] at hwrite
          cases hwrite
      | false =>
          rw [hplace] at hwrite
          exact ⟨front, name, directory, place, hparts, hwalk, hstep, hplace,
            (Except.ok.inj hwrite).symm⟩

theorem read_of_write {p : Path} (hname : p.hasNul = false)
    (hwrite : s.write p text = .ok written) : written.read p = .ok (some text) := by
  obtain ⟨hlong, front, name, directory, place, hparts, hwalk, hstep, hplace, rfl⟩ :=
    write_eq_ok hwrite
  have hexists : ((s.withFile place text).isDirectory place ||
      (s.withFile place text).isFile place) = true := by
    rw [isFile_withFile_self, Bool.or_true]
  have hway : (s.withFile place text).walk [] p.parts = .ok place := by
    rw [hparts]
    exact walk_append (walk_withFile hplace hwalk) (step_withFile hplace hstep) hexists
  have hlocate : (s.withFile place text).locate p = .ok (some place) := by
    rw [locate, if_neg (by simp [hname]), if_neg hlong, hway]
  have hlookup : (s.withFile place text).files.lookup place = some text := by
    simp [withFile]
  simp [read, hlocate, hlookup, bind, Except.bind, pure, Except.pure]

end Storage

end RequestBreakdown
