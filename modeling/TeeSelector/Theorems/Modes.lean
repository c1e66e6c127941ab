import Mathlib.Tactic.Linarith
import TeeSelector.Theorems.Run

/-! What each query path writes into its record, in terms of the clock readings it takes. The simple path
    records the time between its two readings. The detailed path's `execution_time` is the sum of its four
    `detailed_timing` phases, each the time between the two readings around one step, not a time of its own.
    The EXPLAIN path fetches no result rows: a successful record has `results` and `column_names` set to `None`
    and the server's `Execution Time` in seconds where the summary has one, and a failed one carries no
    `plan_summary` and the client time around the EXPLAIN call. `time.time()` is the wall clock and may go
    backwards; while it does not, every time that the simple and detailed paths record, and every time of a
    failed EXPLAIN, is not negative. -/

namespace TeeSelector

/-- The record holds a float `execution_time` that is not negative. --/
def NonNegTime (rec : Dict) : Prop := ∃ x, rec.get? "execution_time" = some (.float x) ∧ 0 ≤ x

/-- The times of a detailed record whose call read the clock first as its `k`-th reading (`t0`). A success
    stores the four phases, each between the two readings around its step (`t_c0`, `t_c1` are the next two
    readings, and so on), and records their sum; a failure records the time from `t0` to a later reading. --/
def DetailedTimes (w : World) (k : Nat) (rec : Dict) : Prop :=
  (rec.get? "status" = some (.str "success") →
    rec.get? "detailed_timing" = some (.obj [("cursor_creation_time", .float (w.time (k + 2) - w.time (k + 1))),
      ("query_execution_time", .float (w.time (k + 4) - w.time (k + 3))),
      ("result_fetch_time", .float (w.time (k + 6) - w.time (k + 5))),
      ("column_info_time", .float (w.time (k + 8) - w.time (k + 7)))]) ∧
    rec.get? "execution_time" = some (.float (w.time (k + 2) - w.time (k + 1) + (w.time (k + 4) - w.time (k + 3)) +
      (w.time (k + 6) - w.time (k + 5)) + (w.time (k + 8) - w.time (k + 7))))) ∧
  (rec.get? "status" = some (.str "error") →
    ∃ j, k < j ∧ rec.get? "execution_time" = some (.float (w.time j - w.time k)))

/-- The time of an EXPLAIN record, for the client time `client` around the call: a failure records `client`, a
    success the `execution_time_ms` of its `plan_summary` in seconds where that is a number, else `client`. --/
def ExplainTime (client : ℚ) (rec : Dict) : Prop :=
  (rec.get? "status" = some (.str "error") → rec.get? "execution_time" = some (.float client)) ∧
  (rec.get? "status" = some (.str "success") → ∃ summary, rec.get? "plan_summary" = some (.obj summary) ∧
    rec.get? "execution_time" =
      some (.float (((Dict.get summary "execution_time_ms").number?.map (· / 1000)).getD client)))

/-- A successful record holds no fetched rows: `results` and `column_names` are `None`. A failed one has no
    `plan_summary`. --/
def NoRowsFetched (rec : Dict) : Prop :=
  (rec.get? "status" = some (.str "success") →
    rec.get? "results" = some .null ∧ rec.get? "column_names" = some .null) ∧
  (rec.get? "status" = some (.str "error") → rec.get? "plan_summary" = none)

theorem time_sub_nonneg {w : World} (mono : Monotone w.time) {i j : Nat} (h : i ≤ j) : 0 ≤ w.time j - w.time i :=
  sub_nonneg.mpr (mono h)

/-! ### The `try` blocks and the clock -/

/-- The simple block reads no clock. --/
theorem simpleBlock_run (w : World) (query : List Char) (m : Machine) :
    ∃ r m', (simpleBlock query).run.run w m = .ok r m' ∧ m.Frame m' ∧ m'.reads.time = m.reads.time := by
  simp only [simpleBlock, tryDb_run, tryPure_run]
  repeat' split
  all_goals exact ⟨_, _, rfl, ⟨rfl, rfl, rfl⟩, rfl⟩

/-- The detailed block reads the clock forwards; on success it has read it eight times, and each of its four
    phases is the time between two successive readings. --/
theorem detailedBlock_run (w : World) (query : List Char) (m : Machine) :
    ∃ r m', (detailedBlock query).run.run w m = .ok r m' ∧ m.Frame m' ∧ m.reads.time < m'.reads.time ∧
      ∀ v, r = .ok v → m'.reads.time = m.reads.time + 8 ∧
        v.2.2 = (w.time (m.reads.time + 1) - w.time m.reads.time, w.time (m.reads.time + 3) - w.time (m.reads.time + 2),
          w.time (m.reads.time + 5) - w.time (m.reads.time + 4), w.time (m.reads.time + 7) - w.time (m.reads.time + 6)) := by
  simp only [detailedBlock, tryLift_run, tryDb_run, tryPure_run, timeTime_run, Outcome.bind_ok]
  repeat' split
  all_goals refine ⟨_, _, rfl, ⟨rfl, rfl, rfl⟩, by dsimp only; omega, fun v ok => ?_⟩
  all_goals cases ok
  exact ⟨rfl, rfl⟩

/-- The EXPLAIN block reads no clock. --/
theorem explainBlock_run (w : World) (explainSql : List Char) (m : Machine) :
    ∃ r m', (explainBlock explainSql).run.run w m = .ok r m' ∧ m'.reads.time = m.reads.time := by
  simp only [explainBlock, tryDb_run, tryPure_run]
  repeat' split
  all_goals exact ⟨_, _, rfl, rfl⟩

theorem getExplainAnalyzeJson_time (w : World) (cm : CaseMap) (query : List Char) {m m' : Machine} {out : Dict}
    (h : (getExplainAnalyzeJson cm query).run w m = .ok out m') : m'.reads.time = m.reads.time := by
  obtain ⟨res, m₁, run₁, time₁⟩ := explainBlock_run w (buildExplainSql cm m.self.explainOptions query) m
  simp only [getExplainAnalyzeJson, Py.run_bind, getSelf_run, Outcome.bind_ok] at h
  split at h
  · cases h; rfl
  · simp only [Py.run_bind, Py.run_pure, Outcome.bind_ok, run₁] at h
    split at h <;> simp only [Py.run_pure, throw_run] at h <;> cases h <;> exact time₁

/-! ### The records of the three paths -/

section Records

variable (w : World) (query : List Char) (queryName : String) (m : Machine) (conn : m.self.connected = true)
include conn

/-- The simple path records the time between its two clock readings, whether the query raised or not. --/
theorem simple_record :
    ∃ rec m', (executeQuerySimple query queryName).run w m = .ok rec m' ∧ m'.reads.time = m.reads.time + 2 ∧
      rec.get? "execution_time" = some (.float (w.time (m.reads.time + 1) - w.time m.reads.time)) := by
  obtain ⟨res, m₁, run₁, -, time₁⟩ := simpleBlock_run w query { m with reads.time := m.reads.time + 1 }
  simp only [executeQuerySimple, Py.run_bind, getSelf_run, conn, Bool.not_true, Bool.false_eq_true, if_false,
    Py.run_pure, timeTime_run, run₁, Outcome.bind_ok, datetimeNow_run]
  cases res <;> exact ⟨_, _, rfl, by simp [time₁], by simp [errorRecord, Dict.get?, List.lookup_cons, time₁]⟩

/-- The detailed path's times are the clock's, read from the call's first reading on. While the clock does not
    go backwards, the recorded time is not negative and at most the clock's advance over the call. --/
theorem detailed_record :
    ∃ rec m', (executeQueryWithDetailedTiming query queryName).run w m = .ok rec m' ∧
      DetailedTimes w m.reads.time rec ∧ m.reads.time ≤ m'.reads.time ∧
      (Monotone w.time → ∃ x, rec.get? "execution_time" = some (.float x) ∧ 0 ≤ x ∧
        x ≤ w.time m'.reads.time - w.time m.reads.time) := by
  obtain ⟨res, m₁, run₁, -, later, phases⟩ :=
    detailedBlock_run w query { m with reads.time := m.reads.time + 1 }
  dsimp only at later phases
  simp only [executeQueryWithDetailedTiming, Py.run_bind, getSelf_run, conn, Bool.not_true, Bool.false_eq_true,
    if_false, Py.run_pure, timeTime_run, run₁, Outcome.bind_ok, datetimeNow_run]
  cases res with
  | ok v =>
    obtain ⟨rows, cols, c, e, f, col⟩ := v
    obtain ⟨time₁, values⟩ := phases _ rfl
    simp only [Prod.mk.injEq] at values
    obtain ⟨rfl, rfl, rfl, rfl⟩ := values
    refine ⟨_, _, rfl, ⟨fun _ => ⟨rfl, rfl⟩, fun failed => by simp [Dict.get?, List.lookup_cons] at failed⟩,
      by dsimp only; omega, fun mono => ⟨_, rfl, ?_⟩⟩
    have le {i j : Nat} (h : i ≤ j) : w.time (m.reads.time + i) ≤ w.time (m.reads.time + j) := mono (by omega)
    rw [time₁]
    constructor
    · linarith [le (show 1 ≤ 2 by decide), le (show 3 ≤ 4 by decide), le (show 5 ≤ 6 by decide),
        le (show 7 ≤ 8 by decide)]
    · linarith [mono (Nat.le_add_right m.reads.time 1), le (show 2 ≤ 3 by decide), le (show 4 ≤ 5 by decide),
        le (show 6 ≤ 7 by decide), le (show 8 ≤ 9 by decide)]
  | error e =>
    refine ⟨_, _, rfl, ⟨fun failed => by simp [errorRecord, Dict.get?, List.lookup_cons] at failed,
      fun _ => ⟨m₁.reads.time, by omega, rfl⟩⟩, by dsimp only; omega, fun mono => ⟨w.time m₁.reads.time - w.time m.reads.time,
        rfl, time_sub_nonneg mono (by omega), ?_⟩⟩
    linarith [mono (Nat.le_add_right m₁.reads.time 1)]

/-- The EXPLAIN path fetches no rows, and records the client time around the call on failure and the server's
    execution time on success, where the summary has one. --/
theorem explain_record (cm : CaseMap) (columns : w.HasColumns) :
    ∃ rec m', (executeQueryWithExplain cm query queryName).run w m = .ok rec m' ∧ NoRowsFetched rec ∧
      ExplainTime (w.time (m.reads.time + 1) - w.time m.reads.time) rec := by
  obtain ⟨out, m₁, run₁, ⟨-, -, -⟩, post⟩ :=
    getExplainAnalyzeJson_spec columns cm query { m with reads.time := m.reads.time + 1 } conn
  have time₁ : m₁.reads.time = m.reads.time + 1 := getExplainAnalyzeJson_time w cm query run₁
  simp only [executeQueryWithExplain, Py.run_bind, getSelf_run, conn, Bool.not_true, Bool.false_eq_true,
    if_false, Py.run_pure, timeTime_run, run₁, Outcome.bind_ok]
  rcases post with ⟨e, error⟩ | ⟨noError, planJson, summary⟩
  · simp only [error, Py.run_pure, datetimeNow_run, Outcome.bind_ok]
    refine ⟨_, _, rfl, ⟨fun succeeded => absurd succeeded (by simp [Dict.get?, List.lookup_cons]), fun _ => ?_⟩,
      fun _ => ?_, fun succeeded => absurd succeeded (by simp [Dict.get?, List.lookup_cons])⟩
    all_goals simp [Dict.get?, List.lookup_cons, time₁]
  · obtain ⟨kvs, dict, root, rootDict⟩ := summarizePlan_dict planJson
    simp only [noError, summary, dict, Json.asDict, liftExcept, Py.run_bind, Py.run_pure, datetimeNow_run,
      rootDict, Outcome.bind_ok]
    refine ⟨_, _, rfl, ?_⟩
    split
    all_goals refine ⟨⟨fun _ => by simp [Dict.get?, List.lookup_cons],
      fun failed => absurd failed (by simp [Dict.get?, List.lookup_cons])⟩,
      fun failed => absurd failed (by simp [Dict.get?, List.lookup_cons]),
      fun _ => ⟨kvs, by simp [Dict.get?, List.lookup_cons], ?_⟩⟩
    all_goals simp [Dict.get?, List.lookup_cons, time₁]
    all_goals cases (Dict.get kvs "execution_time_ms").number? <;> rfl

end Records

/-- The fresh executor after a successful `connect()`. --/
def connectedMachine : Machine := { freshMachine with self := { freshMachine.self with connected := true } }

end TeeSelector
