import Mathlib.Logic.Basic
import RequestBreakdown.CommandLine.Run
import RequestBreakdown.Proofs.CommandLine.GivenOptions

/-!
# Options and variables

The number of queries at a time, the sampling mode and the number of rows that a command
line gives win over whatever the variables hold, and with at least one query at a time the
settings are good.  But the variables are checked first: where the sampling mode of the
environment is none, or its number of queries is below one, every command line ends in a
fault before it is read.
-/

namespace RequestBreakdown

/-- What the variables that are checked hold is good; a number of queries that is blank or
no integer does not count. -/
structure Environment.IsSound (env : Environment) : Prop where
  samplingMode : ∀ text, env.lookup "LOGFACETS_SAMPLING_MODE" = some text →
    text ∈ Arguments.samplingModes
  concurrency : ∀ text, env.lookup "LOGFACETS_CONCURRENCY" = some text →
    ∀ n, Text.trim text ≠ "" → Text.readInt? text = some n → 1 ≤ n

theorem Value.asNumber_int (n : Int) : (Value.int n).asNumber = .ok (.int n) := rfl

namespace SamplingMode

theorem ofValue_text (text : String) : ofValue (.text text) = read text := rfl

theorem read_text (mode : SamplingMode) : read mode.text = .ok mode := by
  cases mode <;> rfl

theorem text_mem (mode : SamplingMode) : mode.text ∈ Arguments.samplingModes := by
  cases mode <;> decide

theorem exists_text_of_mem {text : String} (hmem : text ∈ Arguments.samplingModes) :
    ∃ mode : SamplingMode, mode.text = text := by
  simp only [Arguments.samplingModes, List.mem_cons, List.not_mem_nil, or_false] at hmem
  rcases hmem with rfl | rfl
  · exact ⟨.tables, rfl⟩
  · exact ⟨.clause, rfl⟩

theorem read_of_not_mem {text : String} (hnone : text ∉ Arguments.samplingModes) :
    read text = .error (.input (.unknownSamplingMode text)) := by
  have hread : ofText? text = none := by
    rw [ofText?.eq_3]
    · rintro rfl
      exact hnone (text_mem .tables)
    · rintro rfl
      exact hnone (text_mem .clause)
  rw [read, hread]

end SamplingMode

namespace SettingsInput

variable (input : SettingsInput) {n : Int}

/-- Settings with a mode and at least one query at a time are good, and hold just that. -/
theorem check_eq_ok (mode : SamplingMode) (hmode : input.samplingMode = .text mode.text)
    (hcount : input.maxConcurrent = .int n) (hpositive : 1 ≤ n) :
    ∃ settings, input.check = .ok settings ∧ settings.samplingMode = mode ∧
      settings.maxConcurrent = .int n ∧ settings.topN = input.topN := by
  have hlow : (Number.int n).lt (.int 1) = false := by
    rw [Number.int_lt_int]
    exact decide_eq_false (by omega)
  unfold check
  rw [hmode, hcount, SamplingMode.ofValue_text, SamplingMode.read_text, Value.asNumber_int]
  simp only [bind, Except.bind]
  split
  · exact ⟨_, rfl, rfl, rfl, rfl⟩
  · simp_all

/-- All others are a mistake of the user. -/
theorem check_eq_error {text : String} (hmode : input.samplingMode = .text text)
    (hcount : input.maxConcurrent = .int n)
    (hbad : text ∉ Arguments.samplingModes ∨ n < 1) :
    ∃ fault : Fault, fault.isInput = true ∧ input.check = .error fault := by
  unfold check
  rw [hmode, hcount, SamplingMode.ofValue_text, Value.asNumber_int]
  by_cases hmem : text ∈ Arguments.samplingModes
  · obtain ⟨mode, rfl⟩ := SamplingMode.exists_text_of_mem hmem
    have hlow : (Number.int n).lt (.int 1) = true := by
      rw [Number.int_lt_int]
      exact decide_eq_true (hbad.resolve_left (not_not_intro hmem))
    rw [SamplingMode.read_text]
    simp only [bind, Except.bind]
    split
    · simp_all
    · exact ⟨_, rfl, rfl⟩
  · rw [SamplingMode.read_of_not_mem hmem]
    exact ⟨_, rfl, rfl⟩

end SettingsInput

namespace Environment

/-- The number of queries that the variables set. -/
def concurrency (env : Environment) : Int :=
  (SettingsInput.intVariable env "LOGFACETS_CONCURRENCY" (some 4)).getD 4

def samplingMode (env : Environment) : String :=
  (env.lookup "LOGFACETS_SAMPLING_MODE").getD SamplingMode.tables.text

theorem isSound_iff (env : Environment) :
    env.IsSound ↔ env.samplingMode ∈ Arguments.samplingModes ∧ 1 ≤ env.concurrency := by
  have hmode : env.samplingMode ∈ Arguments.samplingModes ↔
      ∀ text, env.lookup "LOGFACETS_SAMPLING_MODE" = some text →
        text ∈ Arguments.samplingModes := by
    rw [samplingMode]
    cases env.lookup "LOGFACETS_SAMPLING_MODE" with
    | none => simp [SamplingMode.text_mem]
    | some text => simp
  have hcount : 1 ≤ env.concurrency ↔
      ∀ text, env.lookup "LOGFACETS_CONCURRENCY" = some text →
        ∀ n, Text.trim text ≠ "" → Text.readInt? text = some n → 1 ≤ n := by
    rw [concurrency, SettingsInput.intVariable]
    cases env.lookup "LOGFACETS_CONCURRENCY" with
    | none => simp
    | some text =>
        by_cases hblank : Text.trim text = ""
        · simp [hblank]
        · cases hread : Text.readInt? text <;> simp [hblank, hread]
  rw [hmode, hcount]
  exact ⟨fun h => ⟨h.samplingMode, h.concurrency⟩, fun h => ⟨h.1, h.2⟩⟩

end Environment

/-- What limits a run: the queries at a time, how samples are taken, and the rows. -/
structure RunLimits where
  concurrency : Int
  samplingMode : SamplingMode
  topN : Int
  positive : 1 ≤ concurrency

namespace RunLimits

/-- The options that are given last set these limits. -/
structure AreGiven (l : RunLimits) (given : List GivenOption) : Prop where
  concurrency : given.reverse.lookup .concurrency = some (.int l.concurrency)
  samplingMode : given.reverse.lookup .samplingMode = some (.text l.samplingMode.text)
  topN : given.reverse.lookup .topN = some (.int l.topN)

structure AreArguments (l : RunLimits) (a : Arguments) : Prop where
  concurrency : a.concurrency = .int l.concurrency
  samplingMode : a.samplingMode = .text l.samplingMode.text
  topN : a.topN = .int l.topN

structure AreSettings (l : RunLimits) (settings : Settings) : Prop where
  concurrency : settings.maxConcurrent = .int l.concurrency
  samplingMode : settings.samplingMode = l.samplingMode
  topN : settings.topN = .int l.topN

variable {l : RunLimits} {given : List GivenOption} {a : Arguments}

theorem AreGiven.areArguments (hgiven : l.AreGiven given) (defaults : Arguments) :
    l.AreArguments (given.foldl Arguments.put defaults) := by
  have hlast (key : OptionKey) (hone : key.holdsOne = true) (v : Value)
      (hv : given.reverse.lookup key = some v) :
      (given.foldl Arguments.put defaults).held key = v := by
    rw [Arguments.held_foldl_put _ hone, hv, Option.getD_some]
  exact ⟨hlast .concurrency rfl _ hgiven.concurrency,
    hlast .samplingMode rfl _ hgiven.samplingMode, hlast .topN rfl _ hgiven.topN⟩

theorem AreArguments.exists_settings (hlimits : l.AreArguments a) :
    ∃ settings, a.settings = .ok settings ∧ l.AreSettings settings := by
  obtain ⟨settings, hcheck, hmode, hcount, hrows⟩ :
      ∃ settings, a.settings = .ok settings ∧ settings.samplingMode = l.samplingMode ∧
        settings.maxConcurrent = .int l.concurrency ∧ settings.topN = a.topN :=
    SettingsInput.check_eq_ok _ l.samplingMode hlimits.samplingMode hlimits.concurrency
      l.positive
  exact ⟨settings, hcheck, hcount, hmode, hrows.trans hlimits.topN⟩

end RunLimits

namespace Arguments

theorem ofEnvironment_of_isSound {env : Environment} (hsound : env.IsSound) :
    ∃ defaults, ofEnvironment env = .ok defaults := by
  obtain ⟨hmode, hcount⟩ := env.isSound_iff.mp hsound
  obtain ⟨mode, htext⟩ := SamplingMode.exists_text_of_mem hmode
  obtain ⟨settings, hcheck, -⟩ := (SettingsInput.ofEnvironment env).check_eq_ok mode
    (congrArg Value.text htext.symm) rfl hcount
  exact ⟨_, bind_eq_ok.mpr ⟨⟨⟩, discard_eq_ok.mpr ⟨settings, hcheck⟩, rfl⟩⟩

theorem ofEnvironment_of_not_isSound {env : Environment} (hsound : ¬ env.IsSound) :
    ∃ fault : Fault, fault.isInput = true ∧ ofEnvironment env = .error fault := by
  have hbad : env.samplingMode ∉ Arguments.samplingModes ∨ env.concurrency < 1 := by
    rw [Environment.isSound_iff, not_and_or, Int.not_le] at hsound
    exact hsound
  obtain ⟨fault, hinput, hcheck⟩ :=
    (SettingsInput.ofEnvironment env).check_eq_error rfl rfl hbad
  refine ⟨fault, hinput, ?_⟩
  rw [ofEnvironment, hcheck]
  rfl

end Arguments

namespace CommandLine

/-- Limits that a command line gives win over the variables just where what is checked of
these is good by itself; otherwise every command line ends in the fault of a mistake. -/
theorem given_limits_win_iff {texts : List String} {given : List GivenOption} {l : RunLimits}
    (hgiven : Arguments.given? texts = some given) (hlimits : l.AreGiven given)
    (env : Environment) :
    (env.IsSound ↔ ∃ defaults a settings, Arguments.ofEnvironment env = .ok defaults ∧
      defaults.parse texts = .ok (.run a) ∧ l.AreArguments a ∧
      a.settings = .ok settings ∧ l.AreSettings settings) ∧
    (¬ env.IsSound → ∃ fault : Fault, fault.isInput = true ∧
      ∀ c : CommandContext, c.environment = env → ∀ others,
        run c others = { ending := .fault fault }) := by
  refine ⟨⟨fun hsound => ?_, ?_⟩, fun hsound => ?_⟩
  · obtain ⟨defaults, hdefaults⟩ := Arguments.ofEnvironment_of_isSound hsound
    have harguments := hlimits.areArguments defaults
    obtain ⟨settings, hsettings, hset⟩ := harguments.exists_settings
    have hparse : defaults.parse texts = .ok (.run (given.foldl Arguments.put defaults)) :=
      Arguments.parse_eq_run_iff.mpr ⟨given, hgiven, rfl⟩
    exact ⟨defaults, _, settings, hdefaults, hparse, harguments, hsettings, hset⟩
  · rintro ⟨defaults, a, settings, hdefaults, -⟩
    by_contra hsound
    obtain ⟨fault, -, hfault⟩ := Arguments.ofEnvironment_of_not_isSound hsound
    rw [hfault] at hdefaults
    cases hdefaults
  · obtain ⟨fault, hinput, hfault⟩ := Arguments.ofEnvironment_of_not_isSound hsound
    refine ⟨fault, hinput, ?_⟩
    rintro c rfl others
    rw [run, hfault]

/-- Two queries at a time, ten rows and clauses win over variables that say otherwise. -/
theorem given_limits_win_over_variables :
    ∃ defaults a settings,
      Arguments.ofEnvironment [("LOGFACETS_CONCURRENCY", "8"), ("LOGFACETS_TOP_N", "7")] =
        .ok defaults ∧
      defaults.parse ["--concurrency", "0", "-n10", "--sampling-mode=clause", "--concurr",
        "2"] = .ok (.run a) ∧
      RunLimits.AreArguments ⟨2, .clause, 10, by decide⟩ a ∧
      a.settings = .ok settings ∧
      RunLimits.AreSettings ⟨2, .clause, 10, by decide⟩ settings := by
  have hgiven : Arguments.given? ["--concurrency", "0", "-n10", "--sampling-mode=clause",
      "--concurr", "2"] = some [(.concurrency, .int 0), (.topN, .int 10),
        (.samplingMode, .text "clause"), (.concurrency, .int 2)] := by
    decide +kernel
  have hsound : Environment.IsSound
      [("LOGFACETS_CONCURRENCY", "8"), ("LOGFACETS_TOP_N", "7")] :=
    (Environment.isSound_iff _).mpr (by decide +kernel)
  exact (given_limits_win_iff hgiven ⟨rfl, rfl, rfl⟩ _).1.mp hsound

/-- A mode that is none ends the command, although a good one is given with all limits. -/
theorem unknown_mode_beats_options :
    Arguments.given? ["--concurrency", "2", "--sampling-mode", "tables", "-n", "10"] =
      some [(.concurrency, .int 2), (.samplingMode, .text "tables"), (.topN, .int 10)] ∧
    RunLimits.AreGiven ⟨2, .tables, 10, by decide⟩
      [(.concurrency, .int 2), (.samplingMode, .text "tables"), (.topN, .int 10)] ∧
    Arguments.ofEnvironment [("LOGFACETS_SAMPLING_MODE", "bogus")] =
      .error (.input (.unknownSamplingMode "bogus")) := by
  refine ⟨?_, ⟨rfl, rfl, rfl⟩, ?_⟩ <;> decide +kernel

end CommandLine

end RequestBreakdown
