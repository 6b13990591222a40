import Mathlib.Data.List.InsertIdx
import Mathlib.Data.List.Sigma
import RequestBreakdown.Filter.Selection
import RequestBreakdown.Proofs.Value.Sameness

/-!
# The filters in effect as a map

A session sets its filters by column and by the text of a value.  What it holds
is a map from these two to the value and to whether it is dropped, with its
entries in the order in which they came in last.  A change of the selection
drops the filters that it touches, keeps the order of all others, and at most
one filter comes in behind them.
-/

namespace RequestBreakdown

/-! ## The map -/

structure FilterKey where
  column : Value
  /-- The text of the value. -/
  text : String
  deriving DecidableEq, Repr

structure FilterChoice where
  value : Value
  exclude : Value
  deriving DecidableEq, Repr

/-- Choices by key, each key once, in the order of insertion. -/
structure FilterMap where
  entries : List ((_ : FilterKey) × FilterChoice)
  nodupKeys : entries.NodupKeys

namespace FilterMap

def empty : FilterMap := ⟨[], List.nodupKeys_nil⟩

def erase (m : FilterMap) (k : FilterKey) : FilterMap :=
  ⟨m.entries.kerase k, m.nodupKeys.kerase k⟩

/-- The key comes in last, whether it was in the map or not. -/
def put (m : FilterMap) (k : FilterKey) (choice : FilterChoice) : FilterMap where
  entries := m.entries.kerase k ++ [⟨k, choice⟩]
  nodupKeys := by
    have hnew : k ∉ (m.entries.kerase k).keys :=
      List.notMem_keys_kerase k m.nodupKeys
    have hlast := (m.nodupKeys.kerase k).concat hnew
    simpa [List.NodupKeys, List.keys] using hlast

def eraseIdx (m : FilterMap) (index : Nat) : FilterMap :=
  ⟨m.entries.eraseIdx index, m.nodupKeys.sublist (List.eraseIdx_sublist ..)⟩

/-- The entry at a position goes; positions below zero count from the end. -/
def eraseAt? (m : FilterMap) (position : Int) : Option FilterMap :=
  let index := if position < 0 then position + m.entries.length else position
  if 0 ≤ index ∧ index < m.entries.length then some (m.eraseIdx index.toNat)
  else none

def eraseColumn (m : FilterMap) (column : Value) : FilterMap :=
  ⟨m.entries.filter (·.1.column ≠ column), m.nodupKeys.sublist List.filter_sublist⟩

theorem kerase_eq_filter {l : List ((_ : FilterKey) × FilterChoice)}
    (hnodup : l.NodupKeys) (k : FilterKey) :
    l.kerase k = l.filter (·.1 ≠ k) := by
  induction l with
  | nil => rfl
  | cons e rest ih =>
      obtain ⟨hfresh, hrest⟩ := List.nodupKeys_cons.mp hnodup
      by_cases he : e.1 = k
      · have hothers : rest.filter (·.1 ≠ k) = rest := by
          rw [List.filter_eq_self]
          intro other hother
          have hne : other.1 ≠ e.1 := fun heq =>
            hfresh (heq ▸ List.mem_keys_of_mem hother)
          simpa [he] using hne
        rw [List.kerase_cons_eq he.symm, List.filter_cons_of_neg (by simp [he]),
          hothers]
      · rw [List.kerase_cons_ne (Ne.symm he), List.filter_cons_of_pos (by simp [he]),
          ih hrest]

theorem entries_erase (m : FilterMap) (k : FilterKey) :
    (m.erase k).entries = m.entries.filter (·.1 ≠ k) :=
  kerase_eq_filter m.nodupKeys k

theorem entries_put (m : FilterMap) (k : FilterKey) (choice : FilterChoice) :
    (m.put k choice).entries = m.entries.filter (·.1 ≠ k) ++ [⟨k, choice⟩] := by
  rw [← entries_erase]
  rfl

end FilterMap

/-! ## Changes -/

/-- What a session does to its selection. -/
inductive SelectionChange where
  | add (column : String) (value exclude : Value)
  | remove (position : Int)
  | removeValue (column : String) (value : Value)
  | clearColumn (column : String)
  | clear
  deriving DecidableEq, Repr

/-- None when there is nothing at the position to remove. -/
def FilterMap.change? (m : FilterMap) : SelectionChange → Option FilterMap
  | .add column value exclude =>
    some (m.put ⟨.text column, value.display⟩ ⟨value, exclude⟩)
  | .remove position => m.eraseAt? position
  | .removeValue column value => some (m.erase ⟨.text column, value.display⟩)
  | .clearColumn column => some (m.eraseColumn (.text column))
  | .clear => some .empty

namespace Filter

def key (f : Filter) : FilterKey := ⟨f.column, f.value.display⟩

def entry (f : Filter) : (_ : FilterKey) × FilterChoice := ⟨f.key, ⟨f.value, f.exclude⟩⟩

end Filter

namespace FilterSelection

def change (s : FilterSelection) : SelectionChange → Except Fault FilterSelection
  | .add column value exclude =>
    (s.add (.text column) value exclude).2.map fun _ =>
      (s.add (.text column) value exclude).1
  | .remove position => s.remove position
  | .removeValue column value => .ok (s.removeValue (.text column) value)
  | .clearColumn column => .ok (s.clearColumn (.text column))
  | .clear => .ok s.clear

/-- The selection after some changes to an empty one, if none of them fails. -/
def run (breakdowns : List Breakdown) (changes : List SelectionChange) :
    Except Fault FilterSelection :=
  changes.foldlM change { breakdowns }

end FilterSelection

def FilterMap.run? (changes : List SelectionChange) : Option FilterMap :=
  changes.foldlM FilterMap.change? FilterMap.empty

/-! ## What a change does -/

namespace Filter

/-- What is tested is as the breakdown of the column says, or else the column itself. -/
theorem ofColumn_cases {breakdowns : List Breakdown} {column value exclude : Value}
    {f : Filter} (hmade : ofColumn breakdowns column value exclude = .ok f) :
    (∃ b filterColumn filterValue, Breakdown.find? column breakdowns = some b ∧
      b.filterColumn.present? = some filterColumn ∧
      f = { column, value, exclude, filterColumn, filterValue
            filterOperator := b.filterOperator }) ∨
    ∃ filterValue, f = { column, value, exclude, filterValue } := by
  unfold ofColumn at hmade
  dsimp only at hmade
  split at hmade
  · rename_i b filterColumn hfound hfilter
    rw [hfound, Option.bind_some] at hfilter
    cases htransform : b.valueTransform with
    | none =>
        rw [htransform] at hmade
        cases hmade
        exact .inl ⟨b, filterColumn, value, hfound, hfilter, rfl⟩
    | some transform =>
        rw [htransform] at hmade
        cases happly : transform.apply value with
        | error fault => simp [happly, bind, Except.bind] at hmade
        | ok filterValue =>
            simp only [happly, bind, Except.bind, pure, Except.pure,
              Except.ok.injEq] at hmade
            exact .inl ⟨b, filterColumn, filterValue, hfound, hfilter, hmade.symm⟩
  · split at hmade
    all_goals
      cases hmade
      exact .inr ⟨_, rfl⟩

theorem ofColumn_eq_ok {breakdowns : List Breakdown} {column value exclude : Value}
    {f : Filter} (hmade : ofColumn breakdowns column value exclude = .ok f) :
    f.column = column ∧ f.value = value ∧ f.exclude = exclude := by
  rcases ofColumn_cases hmade with ⟨b, filterColumn, filterValue, -, -, rfl⟩ | ⟨_, rfl⟩
  · exact ⟨rfl, rfl, rfl⟩
  · exact ⟨rfl, rfl, rfl⟩

/-- The filter stands on a named column and is as that column wants it tested. -/
structure IsMade (breakdowns : List Breakdown) (f : Filter) : Prop where
  column : ∃ name, f.column = .text name
  made : ofColumn breakdowns f.column f.value f.exclude = .ok f

theorem isMade_of_ofColumn {breakdowns : List Breakdown} {name : String}
    {value exclude : Value} {f : Filter}
    (hmade : ofColumn breakdowns (.text name) value exclude = .ok f) :
    f.IsMade breakdowns := by
  obtain ⟨hcolumn, hvalue, hexclude⟩ := ofColumn_eq_ok hmade
  exact ⟨⟨name, hcolumn⟩, by rw [hcolumn, hvalue, hexclude, hmade]⟩

end Filter

namespace FilterSelection

variable {breakdowns : List Breakdown} {s t : FilterSelection} {m : FilterMap}
  {f : Filter} {c : SelectionChange} {changes : List SelectionChange}

/-- The filter at a position; positions below zero count from the end. -/
def at? (s : FilterSelection) (position : Int) : Option Filter :=
  let index := if position < 0 then position + s.filters.length else position
  if 0 ≤ index then s.filters[index.toNat]? else none

/-- Whether the change is about the filter. -/
def isTouched (s : FilterSelection) (f : Filter) : SelectionChange → Bool
  | .add column value _ => decide (f.key = ⟨.text column, value.display⟩)
  | .remove position => decide (s.at? position = some f)
  | .removeValue column value => decide (f.key = ⟨.text column, value.display⟩)
  | .clearColumn column => decide (f.column = .text column)
  | .clear => true

/-- The selection holds what the map does, each filter as its column wants it
tested. -/
structure Holds (s : FilterSelection) (breakdowns : List Breakdown)
    (m : FilterMap) : Prop where
  testedBy : s.breakdowns = breakdowns
  entries : s.filters.map Filter.entry = m.entries
  made : ∀ f ∈ s.filters, f.IsMade breakdowns

theorem holds_empty : Holds { breakdowns } breakdowns .empty := by
  constructor <;> simp [FilterMap.empty]

theorem stands_iff (hmade : f.IsMade breakdowns) {column : String}
    {value : Value} :
    stands (.text column) value f = true ↔
      f.key = ⟨.text column, value.display⟩ := by
  obtain ⟨name, hname⟩ := hmade.column
  simp [stands, Filter.isOn, Filter.key, hname, Value.same_text]

theorem isOn_text_iff (hmade : f.IsMade breakdowns) {column : String} :
    f.isOn (.text column) = true ↔ f.column = .text column := by
  obtain ⟨name, hname⟩ := hmade.column
  simp [Filter.isOn, hname, Value.same_text]

namespace Holds

theorem nodup (hholds : s.Holds breakdowns m) : s.filters.Nodup := by
  have hentries : (s.filters.map Filter.entry).Nodup :=
    hholds.entries ▸ m.nodupKeys.nodup
  exact hentries.of_map

theorem filters_removeValue (hholds : s.Holds breakdowns m) (column : String)
    (value : Value) :
    (s.removeValue (.text column) value).filters =
      s.filters.filter (·.key ≠ ⟨.text column, value.display⟩) := by
  refine List.filter_congr fun f hf => ?_
  have hstands := not_congr
    (stands_iff (hholds.made f hf) : stands (.text column) value f = true ↔ _)
  rw [Bool.eq_iff_iff]
  simpa using hstands

theorem filters_clearColumn (hholds : s.Holds breakdowns m) (column : String) :
    (s.clearColumn (.text column)).filters =
      s.filters.filter (·.column ≠ .text column) := by
  refine List.filter_congr fun f hf => ?_
  have hon := not_congr
    (isOn_text_iff (hholds.made f hf) : f.isOn (.text column) = true ↔ _)
  rw [Bool.eq_iff_iff]
  simpa using hon

end Holds

theorem add_cases {column : String} {value exclude : Value}
    (hadd : s.change (.add column value exclude) = .ok t) :
    ∃ f, Filter.ofColumn s.breakdowns (.text column) value exclude = .ok f ∧
      t = (s.removeValue (.text column) value).push f := by
  simp only [FilterSelection.change, add] at hadd
  cases hmade : s.makeFilter (.text column) value exclude with
  | error fault => simp [hmade, Except.map] at hadd
  | ok f =>
      simp only [hmade, Except.map, Except.ok.injEq] at hadd
      exact ⟨f, hmade, hadd.symm⟩

theorem remove_cases {position : Int} (hremove : s.remove position = .ok t) :
    ∃ (index : Nat) (f : Filter), s.filters[index]? = some f ∧
      s.at? position = some f ∧
      t = { s with filters := s.filters.eraseIdx index } := by
  unfold remove at hremove
  unfold at?
  generalize (if position < 0 then position + s.filters.length else position) =
    index at hremove ⊢
  dsimp only at hremove ⊢
  by_cases hindex : 0 ≤ index ∧ index < s.filters.length
  · rw [if_pos hindex, Except.ok.injEq] at hremove
    have hlt : index.toNat < s.filters.length := by omega
    refine ⟨index.toNat, s.filters[index.toNat], ?_, ?_, hremove.symm⟩
    · exact List.getElem?_eq_getElem hlt
    · rw [if_pos hindex.1, List.getElem?_eq_getElem hlt]
  · rw [if_neg hindex] at hremove
    exact absurd hremove (by simp)

/-- Exactly the filters that a change touches go, and at most one comes in. -/
theorem Holds.change_cases (hholds : s.Holds breakdowns m)
    (hchange : s.change c = .ok t) :
    t.breakdowns = breakdowns ∧ ∃ added,
      t.filters = (s.filters.filter fun f => !s.isTouched f c) ++ added ∧
      ∀ f ∈ added, s.isTouched f c = true ∧ f.IsMade breakdowns := by
  cases c with
  | add column value exclude =>
      obtain ⟨f, hmade, rfl⟩ := add_cases hchange
      obtain ⟨hcolumn, hvalue, -⟩ := Filter.ofColumn_eq_ok hmade
      refine ⟨hholds.testedBy, [f], ?_, ?_⟩
      · simp [push, hholds.filters_removeValue, isTouched]
      · intro g hg
        obtain rfl := List.mem_singleton.mp hg
        refine ⟨?_, hholds.testedBy ▸ Filter.isMade_of_ofColumn hmade⟩
        simp [isTouched, Filter.key, hcolumn, hvalue]
  | remove position =>
      obtain ⟨index, f, hindex, hat, rfl⟩ := remove_cases hchange
      obtain ⟨hlt, rfl⟩ := List.getElem?_eq_some_iff.mp hindex
      refine ⟨hholds.testedBy, [], ?_, by simp⟩
      dsimp only
      rw [List.append_nil, ← hholds.nodup.erase_getElem index hlt,
        hholds.nodup.erase_eq_filter]
      refine List.filter_congr fun g _ => ?_
      simp [isTouched, hat, bne, beq_eq_decide, eq_comm]
  | removeValue column value =>
      simp only [FilterSelection.change, Except.ok.injEq] at hchange
      subst t
      exact ⟨hholds.testedBy, [], by simp [hholds.filters_removeValue, isTouched], by simp⟩
  | clearColumn column =>
      simp only [FilterSelection.change, Except.ok.injEq] at hchange
      subst t
      exact ⟨hholds.testedBy, [], by simp [hholds.filters_clearColumn, isTouched], by simp⟩
  | clear =>
      simp only [FilterSelection.change, Except.ok.injEq] at hchange
      subst t
      exact ⟨hholds.testedBy, [], by simp [clear, isTouched], by simp⟩

theorem map_entry_filter_key (filters : List Filter) (k : FilterKey) :
    (filters.filter (·.key ≠ k)).map Filter.entry =
      (filters.map Filter.entry).filter (·.1 ≠ k) := by
  rw [List.filter_map]
  rfl

theorem map_entry_filter_column (filters : List Filter) (column : Value) :
    (filters.filter (·.column ≠ column)).map Filter.entry =
      (filters.map Filter.entry).filter (·.1.column ≠ column) := by
  rw [List.filter_map]
  rfl

/-- A change does to the map what it does to the selection. -/
theorem Holds.entries_change (hholds : s.Holds breakdowns m) (hchange : s.change c = .ok t) :
    ∃ next, m.change? c = some next ∧
      t.filters.map Filter.entry = next.entries := by
  cases c with
  | add column value exclude =>
      obtain ⟨f, hmade, rfl⟩ := add_cases hchange
      obtain ⟨hcolumn, hvalue, hexclude⟩ := Filter.ofColumn_eq_ok hmade
      refine ⟨_, rfl, ?_⟩
      simp only [push, hholds.filters_removeValue, List.map_append,
        map_entry_filter_key, hholds.entries, FilterMap.entries_put]
      simp [Filter.entry, Filter.key, hcolumn, hvalue, hexclude]
  | remove position =>
      simp only [FilterSelection.change, remove] at hchange
      have hlength : s.filters.length = m.entries.length := by
        rw [← hholds.entries, List.length_map]
      rw [hlength] at hchange
      simp only [FilterMap.change?, FilterMap.eraseAt?]
      generalize (if position < 0 then position + m.entries.length else position) =
        index at hchange ⊢
      by_cases hindex : 0 ≤ index ∧ index < m.entries.length
      · rw [if_pos hindex, Except.ok.injEq] at hchange
        subst t
        refine ⟨_, if_pos hindex, ?_⟩
        rw [← List.eraseIdx_map, hholds.entries]
        rfl
      · rw [if_neg hindex] at hchange
        exact absurd hchange (by simp)
  | removeValue column value =>
      simp only [FilterSelection.change, Except.ok.injEq] at hchange
      subst t
      refine ⟨_, rfl, ?_⟩
      rw [hholds.filters_removeValue, map_entry_filter_key, hholds.entries,
        FilterMap.entries_erase]
  | clearColumn column =>
      simp only [FilterSelection.change, Except.ok.injEq] at hchange
      subst t
      refine ⟨_, rfl, ?_⟩
      rw [hholds.filters_clearColumn, map_entry_filter_column, hholds.entries,
        FilterMap.eraseColumn]
  | clear =>
      simp only [FilterSelection.change, Except.ok.injEq] at hchange
      subst t
      exact ⟨_, rfl, rfl⟩

theorem Holds.change (hholds : s.Holds breakdowns m) (hchange : s.change c = .ok t) :
    ∃ next, m.change? c = some next ∧ t.Holds breakdowns next := by
  obtain ⟨next, hnext, hentries⟩ := hholds.entries_change hchange
  obtain ⟨hsame, added, hfilters, hadded⟩ := hholds.change_cases hchange
  refine ⟨next, hnext, hsame, hentries, ?_⟩
  rw [hfilters]
  intro f hf
  rcases List.mem_append.mp hf with hkept | hnew
  · exact hholds.made f (List.mem_of_mem_filter hkept)
  · exact (hadded f hnew).2

/-! ## Runs -/

theorem Holds.run (hholds : s.Holds breakdowns m)
    (hrun : changes.foldlM FilterSelection.change s = .ok t) :
    ∃ last, changes.foldlM FilterMap.change? m = some last ∧ t.Holds breakdowns last := by
  induction changes generalizing s m with
  | nil =>
      obtain rfl : s = t := by simpa [pure, Except.pure] using hrun
      exact ⟨m, rfl, hholds⟩
  | cons c rest ih =>
      rw [List.foldlM_cons] at hrun ⊢
      cases hchange : s.change c with
      | error fault => simp [hchange, bind, Except.bind] at hrun
      | ok next =>
          obtain ⟨middle, hmiddle, hnext⟩ := hholds.change hchange
          simp only [hchange, bind, Except.bind] at hrun
          rw [hmiddle]
          exact ih hnext hrun

/-- None of the changes is about the filter, each in the selection it is made on. -/
def Untouched (f : Filter) : FilterSelection → List SelectionChange → Prop
  | _, [] => True
  | s, c :: rest =>
    s.isTouched f c = false ∧ ∀ t, s.change c = .ok t → Untouched f t rest

theorem Holds.sublist_change (hholds : s.Holds breakdowns m)
    (hchange : s.change c = .ok t) {fs : List Filter}
    (huntouched : ∀ f ∈ fs, s.isTouched f c = false) :
    fs.Sublist t.filters ↔ fs.Sublist s.filters := by
  obtain ⟨-, added, hfilters, hadded⟩ := hholds.change_cases hchange
  have hkept : (fs.filter fun f => !s.isTouched f c) = fs := by
    rw [List.filter_eq_self]
    intro f hf
    simp [huntouched f hf]
  rw [hfilters]
  constructor
  · intro hsublist
    obtain ⟨front, back, rfl, hfront, hback⟩ := List.sublist_append_iff.mp hsublist
    have hnone : back = [] := by
      rw [List.eq_nil_iff_forall_not_mem]
      intro f hf
      have htouched := (hadded f (hback.subset hf)).1
      rw [huntouched f (List.mem_append_right _ hf)] at htouched
      exact Bool.false_ne_true htouched
    rw [hnone, List.append_nil]
    exact hfront.trans List.filter_sublist
  · intro hsublist
    have hfilter := hsublist.filter fun f => !s.isTouched f c
    rw [hkept] at hfilter
    exact hfilter.trans (List.sublist_append_left _ _)

/-- Filters that no change is about stay, in the order that they have. -/
theorem Holds.sublist_run (hholds : s.Holds breakdowns m)
    (hrun : changes.foldlM FilterSelection.change s = .ok t) {fs : List Filter}
    (huntouched : ∀ f ∈ fs, Untouched f s changes) :
    fs.Sublist t.filters ↔ fs.Sublist s.filters := by
  induction changes generalizing s m with
  | nil =>
      obtain rfl : s = t := by simpa [pure, Except.pure] using hrun
      exact Iff.rfl
  | cons c rest ih =>
      rw [List.foldlM_cons] at hrun
      cases hchange : s.change c with
      | error fault => simp [hchange, bind, Except.bind] at hrun
      | ok next =>
          simp only [hchange, bind, Except.bind] at hrun
          obtain ⟨middle, -, hnext⟩ := hholds.change hchange
          have hstep := hholds.sublist_change hchange
            fun f hf => (huntouched f hf).1
          have hrest := ih hnext hrun fun f hf => (huntouched f hf).2 next hchange
          exact hrest.trans hstep

/-- The selection is the map: after any changes of which none fails, its filters are
the entries of the map after the same changes, no two of them under one key and
each as its column wants it tested.  From any point of the run on, the filters
that no further change is about stay, in the order that they have there. -/
theorem run_ordered_map (hrun : run breakdowns changes = .ok s) :
    (FilterMap.run? changes).map (·.entries) = some (s.filters.map Filter.entry) ∧
    (s.filters.Pairwise fun f g =>
      ¬ (f.column = g.column ∧ f.value.display = g.value.display)) ∧
    (∀ f ∈ s.filters,
      Filter.ofColumn breakdowns f.column f.value f.exclude = .ok f) ∧
    ∀ before after, changes = before ++ after →
      ∃ t, run breakdowns before = .ok t ∧
        ∀ fs : List Filter, (∀ f ∈ fs, Untouched f t after) →
          (fs.Sublist s.filters ↔ fs.Sublist t.filters) := by
  obtain ⟨last, hlast, hholds⟩ := holds_empty.run hrun
  refine ⟨?_, ?_, fun f hf => (hholds.made f hf).made, ?_⟩
  · rw [FilterMap.run?, hlast, Option.map_some, hholds.entries]
  · have hkeys := last.nodupKeys
    rw [← hholds.entries, List.nodupKeys_iff_pairwise, List.pairwise_map] at hkeys
    refine hkeys.imp fun hne heq => hne ?_
    exact FilterKey.mk.injEq .. ▸ heq
  · rintro before after rfl
    rw [run, List.foldlM_append] at hrun
    cases hbefore : run breakdowns before with
    | error fault =>
        rw [run] at hbefore
        simp [hbefore, bind, Except.bind] at hrun
    | ok t =>
        obtain ⟨middle, -, hmiddle⟩ := holds_empty.run hbefore
        rw [run] at hbefore
        simp only [hbefore, bind, Except.bind] at hrun
        exact ⟨t, rfl, fun fs huntouched => hmiddle.sublist_run hrun huntouched⟩

/-- A value that comes back as another of the same text moves to the end. -/
theorem run_ordered_map_retyped :
    let networks := "CAST(asn AS VARCHAR) || ' ' || asn_name"
    let changes : List SelectionChange :=
      [.add "host" "1" (.flag false), .add networks "15169 Google" (.flag false),
        .add "host" (.int 1) (.flag true), .add "method" "GET" (.flag false),
        .remove (-1)]
    let s : FilterSelection :=
      { filters :=
          [{ column := networks, value := "15169 Google", filterColumn := "asn"
             filterValue := .int 15169 },
            { column := "host", value := .int 1, exclude := .flag true }] }
    run Breakdown.all changes = .ok s ∧
      (FilterMap.run? changes).map (·.entries) = some (s.filters.map Filter.entry) := by
  intro networks changes s
  have hrun : run Breakdown.all changes = .ok s := by decide +kernel
  exact ⟨hrun, (run_ordered_map hrun).1⟩

end FilterSelection

end RequestBreakdown
