import TeeSelector.Main
import TeeSelector.Theorems.Report

/-! What the driver does with a configuration and with a run. `get_database_config` never hands `description` to
    the executor, and the constructor call binds exactly the configurations whose keys are connection parameters
    of `__init__` other than the ones `main` passes itself, with `host`, `port`, `database` and `user` present:
    every built-in default binds, and a file entry with any other key stops `main` with a `TypeError` before a query
    runs. On a fresh executor, `main` writes a report when the connection fails (with no queries and no round
    statistics) and after `N ≥ 1` rounds, and writes none for `N ≤ 0` iterations once connected. -/

namespace TeeSelector

/-! ### The configuration -/

/-- The keys a configuration may hold for `main` to build the executor: the parameters of `__init__` other than
    `self` and the keywords `main` passes. --/
def configKeys : List String := ["host", "port", "database", "user", "password", "explain_options"]

/-- A configuration that the constructor call binds. --/
def Binds (config : Dict) : Prop :=
  (∀ kv ∈ config, kv.1 ∈ configKeys) ∧ ∀ p ∈ requiredParams, (config.lookup p).isSome

theorem bindKeyword_ok {k : String} : bindKeyword k = .ok () ↔ k ≠ "self" ∧ k ∈ initParams := by
  by_cases self : k = "self"
  · simp [bindKeyword, self]
  · by_cases param : k ∈ initParams <;> simp [bindKeyword, self, param]

theorem forM_bindKeyword : ∀ {config : Dict},
    config.forM (fun kv => bindKeyword kv.1) = .ok () ↔ ∀ kv ∈ config, kv.1 ≠ "self" ∧ kv.1 ∈ initParams
  | [] => by simp [List.forM_nil]; rfl
  | kv :: config => by
    have step : (kv :: config).forM (fun kv => bindKeyword kv.1) =
        (bindKeyword kv.1 >>= fun _ => config.forM fun kv => bindKeyword kv.1) := rfl
    rw [step, List.forall_mem_cons, ← bindKeyword_ok, ← forM_bindKeyword]
    cases bindKeyword kv.1 <;> simp [bind, Except.bind]

/-- A key of `__init__` that `main` does not pass itself is a key of `configKeys`. --/
theorem mem_configKeys {k : String} (param : k ∈ initParams) (self : k ≠ "self") (own : k ∉ mainKeywords) :
    k ∈ configKeys := by
  have table : ∀ p ∈ initParams, p ≠ "self" → p ∉ mainKeywords → p ∈ configKeys := by decide
  exact table k param self own

theorem binds_of_bindConfig {config kwargs : Dict} (h : bindConfig config = .ok kwargs) : Binds config := by
  unfold bindConfig at h
  split at h
  · cases h
  next none =>
    cases bound : config.forM fun kv => bindKeyword kv.1 with
    | error e => rw [bound] at h; cases h
    | ok u =>
      rw [bound] at h
      split at h
      next missing =>
        have params := forM_bindKeyword.mp bound
        refine ⟨fun kv mem => mem_configKeys (params kv mem).2 (params kv mem).1
          (by simpa using List.find?_eq_none.mp none kv mem), fun p hp => ?_⟩
        simpa using List.filter_eq_nil_iff.mp missing p hp
      · cases h

theorem bindConfig_of_binds {config : Dict} (h : Binds config) : bindConfig config = .ok config := by
  have keys : ∀ k ∈ configKeys, k ≠ "self" ∧ k ∈ initParams ∧ k ∉ mainKeywords := by decide
  have noOwn : config.find? (fun kv => kv.1 ∈ mainKeywords) = none :=
    List.find?_eq_none.mpr fun kv mem => by simpa using (keys _ (h.1 kv mem)).2.2
  have bound : config.forM (fun kv => bindKeyword kv.1) = .ok () :=
    forM_bindKeyword.mpr fun kv mem => ⟨(keys _ (h.1 kv mem)).1, (keys _ (h.1 kv mem)).2.1⟩
  have present : requiredParams.filter (fun p => (config.lookup p).isNone) = [] :=
    List.filter_eq_nil_iff.mpr fun p hp => by simpa using h.2 p hp
  rw [bindConfig, noOwn]
  simp only [bound, present, bind, Except.bind]

theorem bindConfig_ok_iff (config : Dict) : (∃ kwargs, bindConfig config = .ok kwargs) ↔ Binds config :=
  ⟨fun ⟨_, h⟩ => binds_of_bindConfig h, fun h => ⟨_, bindConfig_of_binds h⟩⟩

theorem defaultConfigs_lookup (name : String) : (defaultConfigs.lookup name).getD localConfig = localConfig := by
  simp only [defaultConfigs, List.lookup_cons, List.lookup_nil]
  repeat' split
  all_goals rfl

theorem localConfig_binds : Binds localConfig := ⟨by decide, by decide⟩

/-- The configuration comes from the file's entry, or it is the built-in default. --/
theorem getDatabaseConfig_cases (cm : CaseMap) (environmentName : String)
    (configFile : Option (Except String Json)) :
    (∃ cfg, configFile = some (.ok cfg) ∧
      fileConfig ⟨cm.lowerStr environmentName.toList⟩ cfg = some (getDatabaseConfig cm environmentName configFile)) ∨
    ((∀ cfg, configFile = some (.ok cfg) → fileConfig ⟨cm.lowerStr environmentName.toList⟩ cfg = none) ∧
      getDatabaseConfig cm environmentName configFile = localConfig) := by
  unfold getDatabaseConfig
  rcases configFile with _ | _ | cfg
  · exact .inr ⟨fun _ h => (by cases h), defaultConfigs_lookup _⟩
  · exact .inr ⟨fun _ h => (by cases h), defaultConfigs_lookup _⟩
  · cases entry : fileConfig ⟨cm.lowerStr environmentName.toList⟩ cfg with
    | none => exact .inr ⟨fun _ h => (by cases h; exact entry), by simp only [entry, defaultConfigs_lookup]; rfl⟩
    | some conf => exact .inl ⟨cfg, rfl, by simp only [entry]; rfl⟩

theorem fileConfig_no_description {name : String} {cfg : Json} {conf : Dict} (h : fileConfig name cfg = some conf) :
    ∀ kv ∈ conf, kv.1 ≠ "description" := by
  unfold fileConfig at h
  repeat' split at h
  all_goals cases h
  intro kv mem
  simpa using (List.mem_filter.mp mem).2

/-- For every environment name, configuration file and SQL directory: the configuration `main` uses has no
    `description`; `main` builds the executor exactly when the SQL directory exists and the configuration binds,
    that is, every key is `host`, `port`, `database`, `user`, `password` or `explain_options`, and the first four
    are present; and where the file gives no entry for the lower-cased name, the built-in default binds. --/
theorem mainStart_built (cm : CaseMap) (environmentName : String) (configFile : Option (Except String Json))
    (sqlDirExists : Bool) :
    (∀ kv ∈ getDatabaseConfig cm environmentName configFile, kv.1 ≠ "description") ∧
    ((∃ kwargs, mainStart cm environmentName configFile sqlDirExists = .built kwargs) ↔
      sqlDirExists = true ∧ Binds (getDatabaseConfig cm environmentName configFile)) ∧
    ((∀ cfg, configFile = some (.ok cfg) → fileConfig ⟨cm.lowerStr environmentName.toList⟩ cfg = none) →
      Binds (getDatabaseConfig cm environmentName configFile)) := by
  refine ⟨?_, ?_, fun noEntry => ?_⟩
  · rcases getDatabaseConfig_cases cm environmentName configFile with ⟨cfg, -, entry⟩ | ⟨-, default⟩
    · exact fileConfig_no_description entry
    · rw [default]; decide
  · rw [← bindConfig_ok_iff]
    unfold mainStart
    cases sqlDirExists
    · simp
    · simp only [Bool.not_true, Bool.false_eq_true, if_false, true_and]
      split <;> simp_all
  · rcases getDatabaseConfig_cases cm environmentName configFile with ⟨cfg, file, entry⟩ | ⟨-, default⟩
    · rw [noEntry cfg file] at entry
      cases entry
    · rw [default]
      exact localConfig_binds

/-! ### The run -/

/-- The document `save_results` writes for an executor without records or round times: no queries and no round
    statistics. --/
def emptyReport (environmentName : String) (connectTime : ℚ) : Dict :=
  [("environment", .str environmentName), ("connection_time", .float connectTime),
    ("summary", .obj [("total_queries", .int 0), ("successful_queries", .int 0), ("failed_queries", .int 0),
      ("total_execution_time", .int 0), ("average_query_time", .float 0)]),
    ("round_times", .arr []), ("query_results", .arr [])]

theorem saveData_empty {ex : Executor} (results : ex.results = []) (rounds : ex.roundTimes = []) :
    saveData ex = .ok (.obj (emptyReport ex.environmentName ex.connectTime)) := by
  simp [saveData, results, rounds, sumSuccessTimes, countWhere, roundSummary, emptyReport, bind, Except.bind, pure,
    Except.pure]

theorem modeFlags_explain (mode : String) : (modeFlags mode).2 = true → mode = "explain" := by
  unfold modeFlags
  split_ifs with explain <;> simp [explain]

theorem catchAll_run {α : Type} (x : Py α) (w : World) (m : Machine) :
    (catchAll x).run w m = match x.run w m with
      | .ok a m' => .ok (.ok a) m'
      | .raise e m' => .ok (.error e) m' := rfl

section Run

variable {w : World} (cm : CaseMap) (iterations : Int) (detailedTiming runExplain : Bool) {m m₁ : Machine} {dt : ℚ}

/-- After a failed `connect()`, `execute_all_queries` returns at once. --/
theorem executeAllQueries_of_failed (failed : connect.run w m = .ok (false, dt) m₁) :
    (executeAllQueries cm iterations detailedTiming runExplain).run w m = .ok () m₁ := by
  simp only [executeAllQueries, Py.run_bind, failed, Outcome.bind_ok, Bool.not_false, if_true, Py.run_pure]

/-- Connected, `execute_all_queries` with `N ≤ 0` runs no round and raises in `total / iterations` for `N = 0` and
    in `min(round_times)` otherwise. --/
theorem executeAllQueries_of_nonpos (connected : connect.run w m = .ok (true, dt) m₁) (nonpos : iterations ≤ 0) :
    ∃ m', (executeAllQueries cm iterations detailedTiming runExplain).run w m =
      .raise (if iterations = 0 then "ZeroDivisionError: division by zero"
        else "ValueError: min() arg is an empty sequence") m' := by
  have none : iterations.toNat = 0 := Int.toNat_eq_zero.mpr nonpos
  simp only [executeAllQueries, Py.run_bind, connected, Outcome.bind_ok, Bool.not_true, Bool.false_eq_true,
    if_false, Py.run_pure, modifySelf_run, sqlDir_run, none, runRounds]
  by_cases zero : iterations = 0 <;> simp [zero, throw_run]

end Run

/-- `main`'s run on a fresh executor, for every world, iteration count and mode. When the connection fails, it
    still writes a report, with no queries and no round statistics. Connected with `N ≤ 0` iterations, it writes
    none: the run raises and `main` prints the error. Connected with `N ≥ 1`, it writes the report of `N·|F|`
    queries over `N` rounds. --/
theorem mainRun_outcomes {w : World} (cm : CaseMap) (iterations : Int) (mode : String) (m : Machine)
    (fresh : m.self.results = [] ∧ m.self.roundTimes = [] ∧ m.self.connectTime = 0) :
    (∀ dt m₁, connect.run w m = .ok (false, dt) m₁ → ∃ fileName m',
      (mainRun cm iterations mode).run w m = .ok (.ok (fileName, .ok (.obj (emptyReport m.self.environmentName 0)))) m') ∧
    (∀ dt m₁, connect.run w m = .ok (true, dt) m₁ → iterations ≤ 0 → ∃ m',
      (mainRun cm iterations mode).run w m = .ok (.error (if iterations = 0 then "ZeroDivisionError: division by zero"
        else "ValueError: min() arg is an empty sequence")) m') ∧
    (∀ dt m₁, connect.run w m = .ok (true, dt) m₁ → 1 ≤ iterations → (mode = "explain" → w.HasColumns) →
      ∃ fileName doc summary m', (mainRun cm iterations mode).run w m = .ok (.ok (fileName, .ok (.obj doc))) m' ∧
        Dict.get? doc "summary" = some (.obj summary) ∧
        Summarized iterations.toNat (iterations.toNat * (loadSqlFiles w.sqlDir).length) summary) := by
  obtain ⟨results, rounds, connectTime⟩ := fresh
  refine ⟨fun dt m₁ failed => ?_, fun dt m₁ connected nonpos => ?_, fun dt m₁ connected pos columns => ?_⟩
  · obtain ⟨ok, dt', m₁', run₁, -, -, self₁, -, -⟩ := connect_spec w m
    rw [failed] at run₁
    obtain ⟨-, rfl⟩ := Outcome.ok.inj run₁
    obtain ⟨fileName, m', saved⟩ := saveResults_run none w m₁
    have report : saveData m₁.self = .ok (.obj (emptyReport m.self.environmentName 0)) := by
      rw [saveData_empty (by rw [self₁]; exact results) (by rw [self₁]; exact rounds), self₁]
      simp only [connectTime]
    refine ⟨fileName, m', ?_⟩
    simp only [mainRun, catchAll_run, Py.run_bind, executeAllQueries_of_failed cm iterations _ _ failed,
      Outcome.bind_ok, saved, report, disconnect, Py.run_pure]
  · obtain ⟨m', raised⟩ := executeAllQueries_of_nonpos cm iterations (modeFlags mode).1 (modeFlags mode).2
      connected nonpos
    refine ⟨m', ?_⟩
    simp only [mainRun, catchAll_run, Py.run_bind, raised, Outcome.bind_raise, Outcome.bind_ok, disconnect,
      Py.run_pure]
  · obtain ⟨N, rfl⟩ := Int.eq_ofNat_of_zero_le (show 0 ≤ iterations by omega)
    obtain ⟨recs, times, -, m', run, logged, length, self', -⟩ :=
      executeAllQueries_spec (fun h => columns (modeFlags_explain mode h)) cm (modeFlags mode).1
        (by exact_mod_cast pos) m
        results connected
    have logged' : LoggedFrom w m.reads.now (roundNames (loadSqlFiles w.sqlDir) 1 N) m'.self.results := by
      rw [self']; exact logged
    obtain ⟨doc, summary, save, found, -, summarized⟩ := saveData_summarized logged' (by rw [self', length])
      (by exact_mod_cast pos)
    obtain ⟨fileName, m'', saved⟩ := saveResults_run none w m'
    refine ⟨fileName, doc, summary, m'', ?_, found, ?_⟩
    · simp only [mainRun, catchAll_run, Py.run_bind, run, Outcome.bind_ok, saved, save, disconnect, Py.run_pure]
    · rw [Int.toNat_ofNat]
      rwa [(roundRecords_of_logged logged').length] at summarized

theorem mainRun_outcomes_freshMachine :
    (freshMachine.self.results = [] ∧ freshMachine.self.roundTimes = [] ∧ freshMachine.self.connectTime = 0) ∧
    (∀ dt m₁, connect.run overlapWorld freshMachine = .ok (false, dt) m₁ → ∃ fileName m',
      (mainRun .ascii 2 "detailed").run overlapWorld freshMachine =
        .ok (.ok (fileName, .ok (.obj (emptyReport freshMachine.self.environmentName 0)))) m') ∧
    (∀ dt m₁, connect.run overlapWorld freshMachine = .ok (true, dt) m₁ → (2 : Int) ≤ 0 → ∃ m',
      (mainRun .ascii 2 "detailed").run overlapWorld freshMachine =
        .ok (.error (if (2 : Int) = 0 then "ZeroDivisionError: division by zero"
          else "ValueError: min() arg is an empty sequence")) m') ∧
    (∀ dt m₁, connect.run overlapWorld freshMachine = .ok (true, dt) m₁ → 1 ≤ (2 : Int) →
      ("detailed" = "explain" → overlapWorld.HasColumns) →
      ∃ fileName doc summary m', (mainRun .ascii 2 "detailed").run overlapWorld freshMachine =
          .ok (.ok (fileName, .ok (.obj doc))) m' ∧ Dict.get? doc "summary" = some (.obj summary) ∧
        Summarized (2 : Int).toNat ((2 : Int).toNat * (loadSqlFiles overlapWorld.sqlDir).length) summary) :=
  ⟨⟨rfl, rfl, rfl⟩, mainRun_outcomes .ascii 2 "detailed" freshMachine ⟨rfl, rfl, rfl⟩⟩

end TeeSelector
