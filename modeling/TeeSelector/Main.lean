import TeeSelector.Executor

/-! The driver of `execute_sql_queries_enhanced_with_analyze.py`, once `main` has read its arguments:
    `get_database_config`, the keyword binding of the call that builds the executor from the configuration, and
    the `try` block around `execute_all_queries` and `save_results`. -/

namespace TeeSelector

/-! ### `get_database_config` -/

/-- The connection settings of each entry of `default_configs`; the four entries are equal. --/
def localConfig : Dict :=
  [("host", .str "localhost"), ("port", .int 5432), ("database", .str "imdbload"), ("user", .str "qihan")]

/-- `default_configs`. --/
def defaultConfigs : List (String × Dict) :=
  [("kvm", localConfig), ("cvm", localConfig), ("cvm_es", localConfig), ("cvm_snp", localConfig)]

/-- The `try` block of `get_database_config` on the decoded file, for the lower-cased name `name`: the copy of its
    entry under `environments` without `description`. It is `none` where no such entry is found, and also where a
    step raises and the `except` falls back: a file that is not an object has no `get`, `environments` other than
    an object fails `in` or indexing by a str, and an entry other than an object has no `copy` or, for a list, no
    `pop` with two arguments. --/
def fileConfig (name : String) : Json → Option Dict
  | .obj cfg =>
    match Dict.getD cfg "environments" (.obj []) with
    | .obj envs =>
      match Dict.get? envs name with
      | some (.obj conf) => some (conf.filter fun kv => kv.1 != "description")
      | _ => none
    | _ => none
  | _ => none

/-- `get_database_config(environment_name, config_file)`. The file is `none` where it does not exist, and an error
    where opening or decoding it raised. --/
def getDatabaseConfig (cm : CaseMap) (environmentName : String) (configFile : Option (Except String Json)) : Dict :=
  let name : String := ⟨cm.lowerStr environmentName.toList⟩
  let fromFile := match configFile with
    | some (.ok cfg) => fileConfig name cfg
    | _ => none
  fromFile.getD ((defaultConfigs.lookup name).getD localConfig)

/-! ### Building the executor -/

/-- The parameters of `EnhancedPostgreSQLExecutor.__init__`. --/
def initParams : List String :=
  ["self", "host", "port", "database", "user", "password", "environment_name", "store_full_plan_json",
    "explain_options", "statement_timeout_ms"]

/-- The parameters of `__init__` without a default, after `self`. --/
def requiredParams : List String := ["host", "port", "database", "user"]

/-- The keywords `main` passes before `**DB_CONFIG`. --/
def mainKeywords : List String := ["environment_name", "store_full_plan_json", "statement_timeout_ms"]

/-- `'a'`, `'a' and 'b'`, or `'a', 'b', and 'c'`: how a `TypeError` lists missing arguments. --/
def argumentList (names : List String) : String :=
  let quoted := names.map fun n => "'" ++ n ++ "'"
  match quoted with
  | [] => ""
  | [a] => a
  | [a, b] => a ++ " and " ++ b
  | _ => ", ".intercalate quoted.dropLast ++ ", and " ++ quoted.getLastD ""

/-- How `__init__` binds one keyword argument of `DB_CONFIG`: `self` is bound already, and any other key must
    name a parameter. --/
def bindKeyword (k : String) : Except String Unit :=
  if k = "self" then .error "TypeError: got multiple values for argument 'self'"
  else if k ∈ initParams then .ok ()
  else .error ("TypeError: got an unexpected keyword argument '" ++ k ++ "'")

/-- `EnhancedPostgreSQLExecutor(environment_name=..., store_full_plan_json=..., statement_timeout_ms=...,
    **DB_CONFIG)`: the `TypeError` of the call, or the keyword arguments it takes from `DB_CONFIG`. Merging
    `**DB_CONFIG` refuses a keyword given before it; `__init__` then binds the keywords in order and reports the
    required parameters left unbound. --/
def bindConfig (config : Dict) : Except String Dict :=
  match config.find? fun kv => kv.1 ∈ mainKeywords with
  | some (k, _) => .error ("TypeError: got multiple values for keyword argument '" ++ k ++ "'")
  | none => do
    config.forM fun kv => bindKeyword kv.1
    match requiredParams.filter fun p => (config.lookup p).isNone with
    | [] => .ok config
    | missing =>
      .error ("TypeError: missing " ++ toString missing.length ++ " required positional argument" ++
        (if missing.length = 1 then "" else "s") ++ ": " ++ argumentList missing)

/-- How `main` reaches its `try` block. --/
inductive MainStart where
  /-- `sys.exit(1)`: the SQL directory does not exist. --/
  | exit
  /-- The constructor call raised, outside any `try`. --/
  | crashed (e : String)
  /-- The executor is built with these keyword arguments of the configuration. --/
  | built (kwargs : Dict)

/-- `main` from `get_database_config` to the constructor call, for the environment name and configuration file it
    read and whether `SQL_DIRECTORY` exists. --/
def mainStart (cm : CaseMap) (environmentName : String) (configFile : Option (Except String Json))
    (sqlDirExists : Bool) : MainStart :=
  let dbConfig := getDatabaseConfig cm environmentName configFile
  if !sqlDirExists then .exit
  else match bindConfig dbConfig with
    | .error e => .crashed e
    | .ok kwargs => .built kwargs

/-! ### The run -/

/-- `try: x` with `except Exception as e`: the value of `x`, or the message of what it raised. --/
def catchAll {α : Type} (x : Py α) : Py (Except String α) :=
  ⟨fun w m => match x.run w m with
    | .ok a m' => .ok (.ok a) m'
    | .raise e m' => .ok (.error e) m'⟩

/-- The `detailed_timing` and `run_explain` flags `main` passes to `execute_all_queries` for its mode. --/
def modeFlags (mode : String) : Bool × Bool :=
  if mode = "explain" then (false, true)
  else if mode = "detailed" then (true, false)
  else (false, false)

/-- The `try` block of `main` with its `except Exception` and `finally`: the mode's run of `execute_all_queries`,
    then `save_results()`, giving the file written and what was written there; or the message `main` prints for
    what raised. --/
def mainRun (cm : CaseMap) (iterations : Int) (mode : String) : Py (Except String (String × Except String Json)) := do
  let out ← catchAll do
    executeAllQueries cm iterations (modeFlags mode).1 (modeFlags mode).2
    saveResults none
  disconnect
  return out

end TeeSelector
