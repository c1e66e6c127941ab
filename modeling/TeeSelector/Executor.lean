import Mathlib.Algebra.Order.Ring.Unbundled.Rat
import TeeSelector.DateTime
import TeeSelector.Plan

/-! The executor of `execute_sql_queries_enhanced_with_analyze.py`, `EnhancedPostgreSQLExecutor`.

    Its methods read the clock, the wall clock, the database and the query directory. These are the `World`:
    streams that the run reads in order, so that one world fixes every reading and every reply. A method is a
    `Py` computation over the `Machine`, which holds the executor object, how far each stream has been read,
    and the per-round counts printed so far. An exception no `except` clause catches ends the run with its
    message and the machine as it then was. -/

namespace TeeSelector

/-! ### Python operators -/

/-- `needle in s` for two strs. --/
def isSubstring (needle : List Char) : List Char → Bool
  | [] => needle.isEmpty
  | c :: s => needle.isPrefixOf (c :: s) || isSubstring needle s

namespace Json

/-- `needle in v` for a str `needle`: a substring of a str, an element of a list, a key of a dict. --/
def contains (needle : String) : Json → Except String Bool
  | str s => .ok (isSubstring needle.toList s.toList)
  | arr xs => .ok (xs.any fun | str s => s == needle | _ => false)
  | obj kvs => .ok (kvs.any fun kv => kv.1 == needle)
  | v => .error ("TypeError: argument of type '" ++ v.typeName ++ "' is not iterable")

/-- The value of an int or a bool as an int. --/
def int? : Json → Option Int
  | bool b => some (if b then 1 else 0)
  | int n => some n
  | _ => none

/-- `a + b`: an int when both are ints or bools, a float when both are numbers. --/
def add (a b : Json) : Except String Json :=
  match a.int?, b.int?, a.number?, b.number? with
  | some m, some n, _, _ => .ok (.int (m + n))
  | _, _, some x, some y => .ok (.float (x + y))
  | _, _, _, _ => .error ("TypeError: unsupported operand type(s) for +: '" ++ a.typeName ++ "' and '" ++
      b.typeName ++ "'")

/-- `v == s` for a str `s`. --/
def eqStr (v : Json) (s : String) : Bool :=
  match v with
  | str t => t == s
  | _ => false

end Json

/-- `d[k]`. --/
def Dict.getItem (d : Dict) (k : String) : Except String Json :=
  match d.get? k with
  | some v => .ok v
  | none => .error ("KeyError: '" ++ k ++ "'")

/-- `sum(1 for x in xs if p(x))`, where evaluating `p` may raise. --/
def countWhere (p : Dict → Except String Bool) : List Dict → Except String Nat
  | [] => .ok 0
  | x :: xs => do
    let hit ← p x
    let rest ← countWhere p xs
    return (if hit then 1 else 0) + rest

/-- `sum(xs)` of floats, for a non-empty list. --/
def sumFloats : List ℚ → ℚ
  | [] => 0
  | x :: xs => x + sumFloats xs

/-! ### EXPLAIN statements -/

/-- A value of the EXPLAIN option mapping: a bool, or any other value, given by its `str`. --/
inductive ExplainValue where
  | bool (b : Bool)
  | other (text : String)
deriving DecidableEq, Repr

/-- `f"{v}"`. --/
def ExplainValue.str : ExplainValue → String
  | bool true => "True"
  | bool false => "False"
  | other text => text

/-- The entry that `_build_explain_sql` appends to `opts` for the option `k` with value `v`. --/
def explainOpt (cm : CaseMap) (k : String) (v : ExplainValue) : List Char :=
  if cm.upperStr k.toList == "FORMAT".toList then "FORMAT ".toList ++ v.str.toList
  else match v with
    | .bool true => cm.upperStr k.toList
    | .bool false => cm.upperStr k.toList ++ " false".toList
    | .other text => cm.upperStr k.toList ++ ' ' :: text.toList

/-- `_build_explain_sql(query)` for the option mapping `explainOptions`, in its insertion order. --/
def buildExplainSql (cm : CaseMap) (explainOptions : List (String × ExplainValue)) (query : List Char) :
    List Char :=
  let opts := explainOptions.map fun (k, v) => explainOpt cm k v
  "EXPLAIN (".toList ++ List.intercalate ", ".toList opts ++ ") ".toList ++ query

/-! ### The outside world -/

/-- The database calls of the executor. --/
inductive DbCall where
  | connect
  | autocommit
  | cursor
  | execute (sql : List Char)
  | fetchall

/-- What one database call does: it raises `psycopg2.Error` with message `error`, or returns. A `fetchall()`
    returns `rows`; after an `execute`, `cursor.description` names the columns `description`. --/
structure DbReply where
  error : Option String
  rows : List (List Json)
  description : Option (List String)

/-- The streams the executor reads: `time.time()`, `datetime.now()`, the replies to its database calls (each
    given the call), and the `*.sql` files of the query directory in sorted order, each with its text, or
    `none` where opening or reading it raises. --/
structure World where
  time : Nat → ℚ
  now : Nat → DateTime
  db : Nat → DbCall → DbReply
  sqlDir : List (String × Option String)

/-- How many readings of each stream a run has taken. --/
structure Reads where
  time : Nat
  now : Nat
  db : Nat

/-- The attributes of an `EnhancedPostgreSQLExecutor` that its methods read or write. `connected` says that
    `self.connection` is set. --/
structure Executor where
  environmentName : String
  storeFullPlanJson : Bool
  explainOptions : List (String × ExplainValue)
  statementTimeoutMs : Option Int
  connected : Bool
  results : List Dict
  roundTimes : List ℚ
  connectTime : ℚ

/-- The EXPLAIN options `__init__` falls back to. --/
def defaultExplainOptions : List (String × ExplainValue) :=
  [("ANALYZE", .bool true), ("BUFFERS", .bool true), ("VERBOSE", .bool false), ("COSTS", .bool true),
    ("TIMING", .bool true), ("FORMAT", .other "JSON")]

/-- `EnhancedPostgreSQLExecutor(...)`: an empty `explainOptions` stands for `None` and `{}` alike. --/
def Executor.init (environmentName : String) (storeFullPlanJson : Bool)
    (explainOptions : List (String × ExplainValue)) (statementTimeoutMs : Option Int) : Executor where
  environmentName := environmentName
  storeFullPlanJson := storeFullPlanJson
  explainOptions := if explainOptions.isEmpty then defaultExplainOptions else explainOptions
  statementTimeoutMs := statementTimeoutMs
  connected := false
  results := []
  roundTimes := []
  connectTime := 0

/-- The counts `execute_all_queries` prints at the end of round `round`. --/
structure RoundReport where
  round : Nat
  time : ℚ
  success : Nat
  error : Nat

/-- The executor object, the readings taken, and the round reports printed so far. --/
structure Machine where
  self : Executor
  reads : Reads
  printed : List RoundReport

/-- How a computation ends: with a value, or with an uncaught exception. --/
inductive Outcome (α : Type) where
  | ok (a : α) (m : Machine)
  | raise (e : String) (m : Machine)

namespace Outcome

variable {α β : Type}

/-- The machine an outcome leaves. --/
def machine : Outcome α → Machine
  | ok _ m => m
  | raise _ m => m

/-- Going on with `k` after a normal end; an exception propagates. --/
def bind (o : Outcome α) (k : α → Machine → Outcome β) : Outcome β :=
  match o with
  | ok a m => k a m
  | raise e m => raise e m

@[simp] theorem bind_ok (a : α) (m : Machine) (k : α → Machine → Outcome β) : (ok a m).bind k = k a m := rfl

@[simp] theorem bind_raise (e : String) (m : Machine) (k : α → Machine → Outcome β) :
    (raise e m).bind k = raise e m := rfl

end Outcome

/-- A computation of the executor. --/
structure Py (α : Type) where
  run : World → Machine → Outcome α

namespace Py

instance : Monad Py where
  pure a := ⟨fun _ m => .ok a m⟩
  bind x f := ⟨fun w m => (x.run w m).bind fun a m' => (f a).run w m'⟩

variable {α β : Type} (w : World) (m : Machine)

@[simp] theorem run_pure (a : α) : (pure a : Py α).run w m = .ok a m := rfl

@[simp] theorem run_bind (x : Py α) (f : α → Py β) :
    (x >>= f).run w m = (x.run w m).bind fun a m' => (f a).run w m' := rfl

end Py

section Steps

variable (w : World) (m : Machine)

/-- `time.time()`. --/
def timeTime : Py ℚ := ⟨fun w m => .ok (w.time m.reads.time) { m with reads.time := m.reads.time + 1 }⟩

@[simp] theorem timeTime_run :
    timeTime.run w m = .ok (w.time m.reads.time) { m with reads.time := m.reads.time + 1 } := rfl

/-- `datetime.now()`. --/
def datetimeNow : Py DateTime :=
  ⟨fun w m => .ok (w.now m.reads.now) { m with reads.now := m.reads.now + 1 }⟩

@[simp] theorem datetimeNow_run :
    datetimeNow.run w m = .ok (w.now m.reads.now) { m with reads.now := m.reads.now + 1 } := rfl

/-- One database call. --/
def dbCall (c : DbCall) : Py DbReply :=
  ⟨fun w m => .ok (w.db m.reads.db c) { m with reads.db := m.reads.db + 1 }⟩

@[simp] theorem dbCall_run (c : DbCall) :
    (dbCall c).run w m = .ok (w.db m.reads.db c) { m with reads.db := m.reads.db + 1 } := rfl

/-- The query directory. --/
def sqlDir : Py (List (String × Option String)) := ⟨fun w m => .ok w.sqlDir m⟩

@[simp] theorem sqlDir_run : sqlDir.run w m = .ok w.sqlDir m := rfl

/-- `self`. --/
def getSelf : Py Executor := ⟨fun _ m => .ok m.self m⟩

@[simp] theorem getSelf_run : getSelf.run w m = .ok m.self m := rfl

/-- An assignment to attributes of `self`. --/
def modifySelf (f : Executor → Executor) : Py Unit := ⟨fun _ m => .ok () { m with self := f m.self }⟩

@[simp] theorem modifySelf_run (f : Executor → Executor) :
    (modifySelf f).run w m = .ok () { m with self := f m.self } := rfl

/-- A printed round report. --/
def printRound (r : RoundReport) : Py Unit := ⟨fun _ m => .ok () { m with printed := m.printed ++ [r] }⟩

@[simp] theorem printRound_run (r : RoundReport) :
    (printRound r).run w m = .ok () { m with printed := m.printed ++ [r] } := rfl

/-- `raise`: an exception that no caller catches. --/
def throw {α : Type} (e : String) : Py α := ⟨fun _ m => .raise e m⟩

@[simp] theorem throw_run {α : Type} (e : String) : (throw e : Py α).run w m = .raise e m := rfl

end Steps

/-- A step that raises where `x` is an error. --/
def liftExcept {α : Type} : Except String α → Py α
  | .ok a => pure a
  | .error e => throw e

/-- A database call inside a `try` block that catches `psycopg2.Error`: the block ends with the message. --/
def dbTry (c : DbCall) : ExceptT String Py DbReply :=
  ExceptT.mk do
    let reply ← dbCall c
    pure (match reply.error with
      | some e => .error e
      | none => .ok reply)

/-! ### Connecting -/

/-- The `try` block of `connect()`, up to `return True, dt`. --/
def connectBlock : ExceptT String Py ℚ := do
  let t0 ← timeTime
  let _ ← dbTry .connect
  modifySelf fun ex => { ex with connected := true }
  let _ ← dbTry .autocommit
  let _ ← dbTry .cursor
  let ex ← getSelf
  if ex.statementTimeoutMs.any (0 < ·) then
    let _ ← dbTry (.execute ("SET statement_timeout = '" ++ toString (ex.statementTimeoutMs.getD 0) ++ "ms'").toList)
  let t1 ← timeTime
  return t1 - t0

/-- `connect()`: `(True, dt)`, or `(False, 0.0)` when a database call raises `psycopg2.Error`. --/
def connect : Py (Bool × ℚ) := do
  match ← connectBlock.run with
  | .ok dt => pure (true, dt)
  | .error _ => pure (false, 0)

/-- `disconnect()`: closing the connection does not raise, and `self.connection` stays set. --/
def disconnect : Py Unit := pure ()

/-! ### Running one query -/

/-- What the query paths return while `self.connection` is not set. --/
def notConnected : Dict := [("error", .str "Not connected")]

/-- The record of `execute_query_simple` and `execute_query_with_detailed_timing` for a query that raised
    `psycopg2.Error` with message `e`. --/
def errorRecord (queryName environment : String) (elapsed : ℚ) (e : String) (stamp : DateTime) : Dict :=
  [("query_name", .str queryName), ("environment", .str environment), ("execution_time", .float elapsed),
    ("error", .str e), ("status", .str "error"), ("timestamp", .str ⟨stamp.isoformat⟩), ("plan_summary", .null)]

/-- The `try` block of `execute_query_simple` up to its second clock reading: the rows and column names. --/
def simpleBlock (query : List Char) : ExceptT String Py (List (List Json) × List String) := do
  let _ ← dbTry .cursor
  let executed ← dbTry (.execute query)
  let fetched ← dbTry .fetchall
  return (fetched.rows, executed.description.getD [])

/-- `execute_query_simple(query, query_name)`. --/
def executeQuerySimple (query : List Char) (queryName : String) : Py Dict := do
  let ex ← getSelf
  if !ex.connected then return notConnected
  let t0 ← timeTime
  match ← (simpleBlock query).run with
  | .ok (rows, colnames) =>
    let t1 ← timeTime
    let stamp ← datetimeNow
    return [("query_name", .str queryName), ("environment", .str ex.environmentName),
      ("execution_time", .float (t1 - t0)), ("row_count", .int rows.length),
      ("column_names", .arr (colnames.map .str)), ("results", .arr (rows.map .arr)), ("status", .str "success"),
      ("timestamp", .str ⟨stamp.isoformat⟩), ("plan_summary", .null)]
  | .error e =>
    let t1 ← timeTime
    let stamp ← datetimeNow
    return errorRecord queryName ex.environmentName (t1 - t0) e stamp

/-- The `try` block of `execute_query_with_detailed_timing` up to `total_time`: the rows, the column names, and
    the cursor creation, execution, fetch and column info times. --/
def detailedBlock (query : List Char) : ExceptT String Py (List (List Json) × List String × ℚ × ℚ × ℚ × ℚ) := do
  let tc0 ← timeTime
  let _ ← dbTry .cursor
  let tc1 ← timeTime
  let te0 ← timeTime
  let executed ← dbTry (.execute query)
  let te1 ← timeTime
  let tf0 ← timeTime
  let fetched ← dbTry .fetchall
  let tf1 ← timeTime
  let tcol0 ← timeTime
  let tcol1 ← timeTime
  return (fetched.rows, executed.description.getD [], tc1 - tc0, te1 - te0, tf1 - tf0, tcol1 - tcol0)

/-- `execute_query_with_detailed_timing(query, query_name)`. --/
def executeQueryWithDetailedTiming (query : List Char) (queryName : String) : Py Dict := do
  let ex ← getSelf
  if !ex.connected then return notConnected
  let t0 ← timeTime
  match ← (detailedBlock query).run with
  | .ok (rows, columnNames, cursorTime, executionTime, fetchTime, columnTime) =>
    let stamp ← datetimeNow
    return [("query_name", .str queryName), ("environment", .str ex.environmentName),
      ("execution_time", .float (cursorTime + executionTime + fetchTime + columnTime)),
      ("detailed_timing", .obj [("cursor_creation_time", .float cursorTime),
        ("query_execution_time", .float executionTime), ("result_fetch_time", .float fetchTime),
        ("column_info_time", .float columnTime)]),
      ("row_count", .int rows.length), ("column_names", .arr (columnNames.map .str)),
      ("results", .arr (rows.map .arr)), ("status", .str "success"), ("timestamp", .str ⟨stamp.isoformat⟩),
      ("plan_summary", .null)]
  | .error e =>
    let t1 ← timeTime
    let stamp ← datetimeNow
    return errorRecord queryName ex.environmentName (t1 - t0) e stamp

/-- The `try` block of `get_explain_analyze_json` up to `fetchall()`. --/
def explainBlock (explainSql : List Char) : ExceptT String Py (List (List Json)) := do
  let _ ← dbTry .cursor
  let _ ← dbTry (.execute explainSql)
  let fetched ← dbTry .fetchall
  return fetched.rows

/-- `get_explain_analyze_json(query)`. An EXPLAIN row without a column raises `IndexError`, which no caller
    catches; the JSON text round trip of the plan is the identity. --/
def getExplainAnalyzeJson (cm : CaseMap) (query : List Char) : Py Dict := do
  let ex ← getSelf
  if !ex.connected then return notConnected
  match ← (explainBlock (buildExplainSql cm ex.explainOptions query)).run with
  | .error e => return [("error", .str ("EXPLAIN failed: " ++ e))]
  | .ok [] => return [("error", .str "No EXPLAIN output")]
  | .ok ([] :: _) => throw "IndexError: tuple index out of range"
  | .ok ((planJson :: _) :: _) =>
    let out : Dict := [("plan_summary", summarizePlan planJson), ("explain_text", .null)]
    return if ex.storeFullPlanJson then out ++ [("plan_json", planJson)] else out

/-- `execute_query_with_explain(query, query_name)`. --/
def executeQueryWithExplain (cm : CaseMap) (query : List Char) (queryName : String) : Py Dict := do
  let ex ← getSelf
  if !ex.connected then return notConnected
  let t0 ← timeTime
  let explainOut ← getExplainAnalyzeJson cm query
  let t1 ← timeTime
  let clientElapsed := t1 - t0
  match explainOut.get? "error" with
  | some e =>
    let stamp ← datetimeNow
    return [("query_name", .str queryName), ("environment", .str ex.environmentName),
      ("execution_time", .float clientElapsed), ("status", .str "error"), ("error", e),
      ("timestamp", .str ⟨stamp.isoformat⟩)]
  | none =>
    let planSummary ← liftExcept (explainOut.getD "plan_summary" (.obj [])).asDict
    let primaryExecSeconds := match (planSummary.get "execution_time_ms").number? with
      | some executionMs => executionMs / 1000
      | none => clientElapsed
    let stamp ← datetimeNow
    let root ← liftExcept (planSummary.getD "root" (.obj [])).asDict
    let result : Dict := [("query_name", .str queryName), ("environment", .str ex.environmentName),
      ("execution_time", .float primaryExecSeconds), ("status", .str "success"),
      ("timestamp", .str ⟨stamp.isoformat⟩), ("row_count", root.get "actual_rows"), ("column_names", .null),
      ("results", .null), ("plan_summary", .obj planSummary)]
    return if ex.storeFullPlanJson then result ++ [("plan_json", explainOut.get "plan_json")] else result

/-! ### All queries, round after round -/

/-- A query file that `load_sql_files` keeps: its base name and its stripped text. --/
structure SqlFile where
  filename : String
  content : List Char

/-- `load_sql_files(directory)` on the sorted listing of its `*.sql` files: a file that cannot be read and a
    file with only whitespace are left out. --/
def loadSqlFiles (dir : List (String × Option String)) : List SqlFile :=
  dir.filterMap fun (filename, text) =>
    match text with
    | some t => if (strip t.toList).isEmpty then none else some ⟨filename, strip t.toList⟩
    | none => none

/-- The query path `execute_all_queries` picks for its flags. --/
def executeQuery (cm : CaseMap) (detailedTiming runExplain : Bool) (query : List Char) (queryName : String) :
    Py Dict :=
  if runExplain then executeQueryWithExplain cm query queryName
  else if detailedTiming then executeQueryWithDetailedTiming query queryName
  else executeQuerySimple query queryName

/-- `f"{filename}_round{r}"`. --/
def roundName (filename : String) (r : Nat) : String := filename ++ "_round" ++ toString r

/-- The loop over the files of round `r`, each record appended to `self.results`. --/
def runRound (cm : CaseMap) (detailedTiming runExplain : Bool) (r : Nat) : List SqlFile → Py Unit
  | [] => pure ()
  | s :: files => do
    let res ← executeQuery cm detailedTiming runExplain s.content (roundName s.filename r)
    modifySelf fun ex => { ex with results := ex.results ++ [res] }
    runRound cm detailedTiming runExplain r files

/-- `x["status"] == status and f"_round{r}" in x["query_name"]`. --/
def inRound (status : String) (r : Nat) (x : Dict) : Except String Bool := do
  if (← x.getItem "status").eqStr status then (← x.getItem "query_name").contains ("_round" ++ toString r)
  else pure false

/-- The loop over rounds `r`, `r + 1`, ... of `execute_all_queries`, `k` rounds in all, after rounds that took
    `roundTimes`: each round runs every file, then prints its time and its success and error counts. --/
def runRounds (cm : CaseMap) (detailedTiming runExplain : Bool) (files : List SqlFile) :
    Nat → Nat → List ℚ → Py (List ℚ)
  | _, 0, roundTimes => pure roundTimes
  | r, k + 1, roundTimes => do
    let r0 ← timeTime
    runRound cm detailedTiming runExplain r files
    let r1 ← timeTime
    let ex ← getSelf
    let succ ← liftExcept (countWhere (inRound "success" r) ex.results)
    let fail ← liftExcept (countWhere (inRound "error" r) ex.results)
    printRound ⟨r, r1 - r0, succ, fail⟩
    runRounds cm detailedTiming runExplain files (r + 1) k (roundTimes ++ [r1 - r0])

/-- `execute_all_queries(sql_directory, iterations, detailed_timing, run_explain)`, with the directory the
    world's. After the rounds, `total / iterations` raises for no rounds and `min(round_times)` for a negative
    count. --/
def executeAllQueries (cm : CaseMap) (iterations : Int) (detailedTiming runExplain : Bool) : Py Unit := do
  let (ok, connectTime) ← connect
  if !ok then return
  modifySelf fun ex => { ex with connectTime := connectTime }
  let sqlFiles := loadSqlFiles (← sqlDir)
  let roundTimes ← runRounds cm detailedTiming runExplain sqlFiles 1 iterations.toNat []
  if iterations = 0 then throw "ZeroDivisionError: division by zero"
  if roundTimes.isEmpty then throw "ValueError: min() arg is an empty sequence"
  modifySelf fun ex => { ex with roundTimes := roundTimes }
  disconnect

/-! ### The saved report -/

/-- `sum(r.get("execution_time", 0.0) for r in results if r.get("status") == "success")`, added on to
    `total`. --/
def sumSuccessTimes (total : Json) : List Dict → Except String Json
  | [] => .ok total
  | r :: rs =>
    if (r.get "status").eqStr "success" then do
      let total' ← total.add (r.getD "execution_time" (.float 0))
      sumSuccessTimes total' rs
    else sumSuccessTimes total rs

/-- `r["status"] == status`. --/
def statusIs (status : String) (r : Dict) : Except String Bool := do
  return (← r.getItem "status").eqStr status

/-- The `summary.update(...)` of `save_results` for non-empty round times, without `std_deviation`. --/
def roundSummary : List ℚ → Dict
  | [] => []
  | t :: ts =>
    [("rounds", .int (ts.length + 1)), ("average_round_time", .float (sumFloats (t :: ts) / (ts.length + 1))),
      ("min_round_time", .float (ts.foldl min t)), ("max_round_time", .float (ts.foldl max t)),
      ("total_round_time", .float (sumFloats (t :: ts)))]

/-- The document `save_results` writes for the executor `ex`, or the message of the exception its `try` block
    catches. --/
def saveData (ex : Executor) : Except String Json := do
  let totalExec ← sumSuccessTimes (.int 0) ex.results
  let n := ex.results.length
  let avgQueryTime : ℚ := if n = 0 then 0 else (totalExec.number?.getD 0) / n
  let successful ← countWhere (statusIs "success") ex.results
  let failed ← countWhere (statusIs "error") ex.results
  let summary : Dict := [("total_queries", .int n), ("successful_queries", .int successful),
    ("failed_queries", .int failed), ("total_execution_time", totalExec),
    ("average_query_time", .float avgQueryTime)]
  return .obj [("environment", .str ex.environmentName), ("connection_time", .float ex.connectTime),
    ("summary", .obj (summary ++ roundSummary ex.roundTimes)), ("round_times", .arr (ex.roundTimes.map .float)),
    ("query_results", .arr (ex.results.map .obj))]

/-- `save_results(output_file)`: the file it writes to, and what it writes there (or the message it prints
    instead). Without a file name it reads the wall clock for one. --/
def saveResults (outputFile : Option String) : Py (String × Except String Json) := do
  let ex ← getSelf
  let fileName ← match outputFile with
    | some f => pure f
    | none => do
      let stamp ← datetimeNow
      pure ("query_results_" ++ ex.environmentName ++ "_" ++ String.mk stamp.strftime ++ ".json")
  return (fileName, saveData ex)

end TeeSelector
