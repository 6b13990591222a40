import Mathlib.Data.List.Induction
import RequestBreakdown.CommandLine.Parse
import RequestBreakdown.Proofs.Fault

/-!
# Options that are given

What a command line gives does not depend on the defaults.  Each option reads its text by
itself and then takes its place among the arguments, so a command line is read to a list of
options with their values, and the arguments are the defaults with these put in one after
the other.  Where an option holds a single value, the last that is given wins over the
default.
-/

namespace RequestBreakdown

namespace OptionKey

/-- An option that is answered at once, without a run. -/
def isAnswered : OptionKey → Bool
  | .help | .version => true
  | _ => false

/-- An option whose last value counts. -/
def holdsOne : OptionKey → Bool
  | .filter | .exclude | .breakdown => false
  | key => key.takesValue

/-- How an option reads its text; one that takes no value has nothing to read. -/
def read : OptionKey → String → Except ValueFault Value
  | .help | .version | .noMaterialize | .bytes | .listBreakdowns | .listColumns | .debug =>
    fun _ => .ok .null
  | .filter | .exclude => Arguments.readFilter
  | .topN => Arguments.readTopN
  | .samplingMode => Arguments.readSamplingMode
  | .concurrency | .threads => Arguments.readCount
  | _ => Arguments.readText

end OptionKey

/-- An option with the value that its text was read to. -/
abbrev GivenOption := OptionKey × Value

namespace Arguments

/-- The arguments once an option has its value. -/
def put (a : Arguments) : GivenOption → Arguments
  | (.help, _) | (.version, _) => a
  | (.dataDirectory, v) => { a with dataDirectory := v }
  | (.database, v) => { a with database := v }
  | (.table, v) => { a with table := v }
  | (.noMaterialize, _) => { a with materialize := false }
  | (.range, v) => { a with range := v }
  | (.start, v) => { a with start := v }
  | (.stop, v) => { a with stop := v }
  | (.now, v) => { a with now := v }
  | (.filter, v) => { a with includes := a.includes ++ [v] }
  | (.exclude, v) => { a with excludes := a.excludes ++ [v] }
  | (.breakdown, v) => { a with breakdowns := a.breakdowns ++ [v] }
  | (.topN, v) => { a with topN := v }
  | (.bytes, _) => { a with countsBytes := true }
  | (.listBreakdowns, _) => { a with listsBreakdowns := true }
  | (.listColumns, _) => { a with listsColumns := true }
  | (.samplingMode, v) => { a with samplingMode := v }
  | (.concurrency, v) => { a with concurrency := v }
  | (.threads, v) => { a with threads := v }
  | (.format, v) => { a with format := v }
  | (.debug, _) => { a with debug := true }
  | (.debugLog, v) => { a with debugLog := v }

/-- What an option holds. -/
def held (a : Arguments) : OptionKey → Value
  | .help | .version => .null
  | .dataDirectory => a.dataDirectory
  | .database => a.database
  | .table => a.table
  | .noMaterialize => .flag !a.materialize
  | .range => a.range
  | .start => a.start
  | .stop => a.stop
  | .now => a.now
  | .filter => .list a.includes
  | .exclude => .list a.excludes
  | .breakdown => .list a.breakdowns
  | .topN => a.topN
  | .bytes => .flag a.countsBytes
  | .listBreakdowns => .flag a.listsBreakdowns
  | .listColumns => .flag a.listsColumns
  | .samplingMode => a.samplingMode
  | .concurrency => a.concurrency
  | .threads => a.threads
  | .format => a.format
  | .debug => .flag a.debug
  | .debugLog => a.debugLog

/-- An option reads its text, whatever the other arguments are, and takes its place. -/
theorem set_eq (a : Arguments) (key : OptionKey) (text : String) :
    a.set key text = (key.read text).map fun v => a.put (key, v) := by
  cases key <;> rfl

theorem setOption_eq_ok {a b : Arguments} {key : OptionKey} {text : String} :
    a.setOption key text = .ok b ↔ ∃ v, key.read text = .ok v ∧ a.put (key, v) = b := by
  rw [setOption, set_eq]
  cases key.read text with
  | error fault => simp [Except.map, Except.mapError]
  | ok v => simp [Except.map, Except.mapError]

theorem held_put_of_ne (a : Arguments) {given : GivenOption} {key : OptionKey}
    (hne : given.1 ≠ key) : (a.put given).held key = a.held key := by
  obtain ⟨other, v⟩ := given
  cases other <;> cases key <;> first | rfl | exact absurd rfl hne

theorem held_put_self (a : Arguments) {given : GivenOption} (hone : given.1.holdsOne = true) :
    (a.put given).held given.1 = given.2 := by
  obtain ⟨key, v⟩ := given
  cases key <;> first | rfl | cases hone

/-- The last value that is given to an option wins over what it held before. -/
theorem held_foldl_put (a : Arguments) {key : OptionKey} (hone : key.holdsOne = true)
    (given : List GivenOption) :
    (given.foldl put a).held key = (given.reverse.lookup key).getD (a.held key) := by
  induction given using List.reverseRecOn with
  | nil => rfl
  | append_singleton given last ih =>
      rw [List.foldl_append, List.foldl_cons, List.foldl_nil, List.reverse_append,
        List.reverse_singleton, List.singleton_append, List.lookup_cons]
      by_cases hkey : last.1 = key
      · subst hkey
        simp [held_put_self _ hone]
      · have hbeq : (key == last.1) = false := beq_false_of_ne fun heq => hkey heq.symm
        rw [held_put_of_ne _ hkey, ih, hbeq]

end Arguments

namespace ArgumentToken

/-- An option with the value of its text, in front of others. -/
def givenBy (key : OptionKey) (text : String) (others : Option (List GivenOption)) :
    Option (List GivenOption) := do
  return (key, ← (key.read text).toOption) :: (← others)

theorem givenBy_eq_some {key : OptionKey} {text : String} {others : Option (List GivenOption)}
    {given : List GivenOption} :
    givenBy key text others = some given ↔
      ∃ v rest, key.read text = .ok v ∧ others = some rest ∧ (key, v) :: rest = given := by
  rw [givenBy]
  cases key.read text with
  | error fault => simp [Except.toOption]
  | ok v => cases others <;> simp [Except.toOption]

/-- The options with their values where there is nothing but these, all are good, and none
is answered at once. -/
def given? : List ArgumentToken → Option (List GivenOption)
  | [] => some []
  | .option key (some text) :: rest =>
    if key.takesValue then givenBy key text (given? rest) else none
  | .option key none :: .plain text :: rest =>
    if key.takesValue then givenBy key text (given? rest) else none
  | .option key none :: rest =>
    if key.takesValue || key.isAnswered then none else givenBy key "" (given? rest)
  | _ => none

theorem given?_answered (key : OptionKey) (hanswered : key.isAnswered = true)
    (rest : List ArgumentToken) : given? (.option key none :: rest) = none := by
  have hvalue : key.takesValue = false := by
    cases key <;> first | rfl | cases hanswered
  unfold given?
  split <;> simp_all

theorem given?_alone {key : OptionKey} (hvalue : key.takesValue = false)
    (hanswered : key.isAnswered = false) {rest : List ArgumentToken}
    (halone : ∀ text others, rest ≠ .plain text :: others) :
    given? (.option key none :: rest) = givenBy key "" (given? rest) := by
  rw [given?]
  · simp [hvalue, hanswered]
  · exact halone

end ArgumentToken

namespace Arguments

/-- What a command line gives, where it is a good one that asks for a run. -/
def given? (texts : List String) : Option (List GivenOption) :=
  (ArgumentToken.ofTexts texts).toOption.bind ArgumentToken.given?

theorem takeHelp_ne_run (text : String) (next : Option ArgumentToken) (b : Arguments) :
    takeHelp text next ≠ .ok (.run b) := by
  rw [takeHelp]
  fun_induction takeHelp.go next text.toList <;> simp_all

/-- An option takes effect in front of others whose effect is known. -/
theorem setOption_then_take {a b : Arguments} {key : OptionKey} {text : String}
    {extra : List String} {rest : List ArgumentToken}
    (hrest : ∀ c : Arguments, c.take extra rest = .ok (.run b) ↔
      extra = [] ∧ ∃ given, ArgumentToken.given? rest = some given ∧ given.foldl put c = b) :
    (do take (← a.setOption key text) extra rest) = .ok (.run b) ↔
      extra = [] ∧ ∃ given, ArgumentToken.givenBy key text (ArgumentToken.given? rest) =
        some given ∧ given.foldl put a = b := by
  simp only [bind_eq_ok, setOption_eq_ok, hrest, ArgumentToken.givenBy_eq_some]
  constructor
  · rintro ⟨_, ⟨v, hread, rfl⟩, hextra, given, hgiven, rfl⟩
    exact ⟨hextra, _, ⟨v, given, hread, hgiven, rfl⟩, rfl⟩
  · rintro ⟨hextra, _, ⟨v, given, hread, hgiven, rfl⟩, rfl⟩
    exact ⟨_, ⟨v, hread, rfl⟩, hextra, given, hgiven, rfl⟩

/-- A run is asked for just where there is nothing but good options, and its arguments are
the defaults with these put in. -/
theorem take_eq_run_iff {a b : Arguments} {extra : List String} {tokens : List ArgumentToken} :
    a.take extra tokens = .ok (.run b) ↔
      extra = [] ∧ ∃ given, ArgumentToken.given? tokens = some given ∧
        given.foldl put a = b := by
  fun_induction take a extra tokens with
  | case1 a extra hextra => simp_all [ArgumentToken.given?]
  | case2 a extra hextra => simp_all
  | case3 a extra text rest ih => simp [ih, ArgumentToken.given?]
  | case4 a extra text rest ih => simp [ih, ArgumentToken.given?]
  | case5 a extra rest ih => simp [ih, ArgumentToken.given?]
  | case6 a extra text rest => simp [takeHelp_ne_run, ArgumentToken.given?]
  | case7 a extra key text rest htakes ih =>
      rw [setOption_then_take ih, ArgumentToken.given?, if_pos htakes]
  | case8 a extra key text rest htakes => simp [ArgumentToken.given?, htakes]
  | case9 a extra rest => simp [ArgumentToken.given?_answered .help rfl]
  | case10 a extra rest => simp [ArgumentToken.given?_answered .version rfl]
  | case11 a extra key text rest _ _ htakes ih =>
      rw [setOption_then_take ih, ArgumentToken.given?, if_pos htakes]
  | case12 a extra key text rest _ _ htakes ih =>
      rw [setOption_then_take ih]
      simp [ArgumentToken.given?, htakes]
  | case13 a extra key rest _ _ halone htakes => simp [ArgumentToken.given?, htakes]
  | case14 a extra key rest hhelp hversion halone htakes ih =>
      have hanswered : key.isAnswered = false := by
        cases key <;> first | rfl | contradiction
      rw [setOption_then_take ih,
        ArgumentToken.given?_alone (by simpa using htakes) hanswered halone]

/-- Whether a command line asks for a run does not depend on the defaults, and the arguments
of the run are the defaults with what it gives put in. -/
theorem parse_eq_run_iff {defaults a : Arguments} {texts : List String} :
    defaults.parse texts = .ok (.run a) ↔
      ∃ given, given? texts = some given ∧ given.foldl put defaults = a := by
  rw [parse, given?, bind_eq_ok]
  cases ArgumentToken.ofTexts texts with
  | error fault => simp [Except.toOption]
  | ok tokens => simp [Except.toOption, take_eq_run_iff]

end Arguments

end RequestBreakdown
