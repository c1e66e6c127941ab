import Mathlib.Tactic.Linarith
import TeeSelector.Theorems.Modes
import TeeSelector.Theorems.Report

/-! The time budget of a run without EXPLAIN. While `time.time()` does not go backwards, the `execution_time` a
    query records lies between the clock readings around its call, so the records of a round take no longer in
    all than the round time that `execute_all_queries` keeps in `round_times`, and the `total_execution_time`
    that `save_results` writes is at most its `total_round_time`. With EXPLAIN on, a success records the
    server's `Execution Time`, which no client clock bounds. -/

namespace TeeSelector

/-! ### Sums of record times -/

/-- `r.get("execution_time", 0.0)` as the number that `sum` adds. --/
def recordTime (rec : Dict) : ℚ := ((rec.getD "execution_time" (.float 0)).number?).getD 0

theorem recordTime_of_float {rec : Dict} {x : ℚ} (h : rec.get? "execution_time" = some (.float x)) :
    recordTime rec = x := by
  simp [recordTime, Dict.getD, h, Json.number?]

theorem sumFloats_append (l l' : List ℚ) : sumFloats (l ++ l') = sumFloats l + sumFloats l' := by
  induction l with
  | nil => simp [sumFloats]
  | cons x l ih => rw [List.cons_append, sumFloats, sumFloats, ih, add_assoc]

section Sums

variable {α : Type} (f : α → ℚ)

theorem sumFloats_map_nonneg : ∀ {l : List α}, (∀ x ∈ l, 0 ≤ f x) → 0 ≤ sumFloats (l.map f)
  | [], _ => le_rfl
  | x :: l, h => add_nonneg (h x (List.mem_cons_self x l)) (sumFloats_map_nonneg fun y hy => h y (List.mem_cons_of_mem x hy))

/-- Leaving out terms that are not negative makes a sum no larger. --/
theorem sumFloats_filter_le (p : α → Bool) : ∀ {l : List α}, (∀ x ∈ l, 0 ≤ f x) →
    sumFloats ((l.filter p).map f) ≤ sumFloats (l.map f)
  | [], _ => le_rfl
  | x :: l, h => by
    have rest := sumFloats_filter_le p fun y hy => h y (List.mem_cons_of_mem x hy)
    rw [List.filter_cons]
    split
    · exact add_le_add_left rest (f x)
    · exact rest.trans (le_add_of_nonneg_left (h x (List.mem_cons_self x l)))

end Sums

/-- Over records whose times are floats, `sum(r.get("execution_time", 0.0) for r in results if
    r.get("status") == "success")` adds the times of the successes to the start value. --/
theorem sumSuccessTimes_eq : ∀ {recs : List Dict}, (∀ x ∈ recs, ∃ e, x.get? "execution_time" = some (.float e)) →
    ∀ {total : Json} {q : ℚ}, total.number? = some q → ∃ t, sumSuccessTimes total recs = .ok t ∧
      t.number? = some (q + sumFloats ((recs.filter fun r => (r.get "status").eqStr "success").map recordTime))
  | [], _, _, q, number => ⟨_, rfl, by simp [sumFloats, number]⟩
  | r :: recs, floats, total, q, number => by
    obtain ⟨e, time⟩ := floats r (List.mem_cons_self r recs)
    have rest := fun x hx => floats x (List.mem_cons_of_mem r hx)
    unfold sumSuccessTimes
    split
    next success =>
      have add : total.add (r.getD "execution_time" (.float 0)) = .ok (.float (q + e)) := by
        simpa [Dict.getD, time] using Json.add_float number e
      obtain ⟨t, sum, number'⟩ := sumSuccessTimes_eq rest (show (Json.float (q + e)).number? = some (q + e) from rfl)
      refine ⟨t, by rw [add]; exact sum, ?_⟩
      simp only [number', List.filter_cons, success, if_true, List.map_cons, sumFloats, recordTime_of_float time,
        add_assoc]
    next failure =>
      obtain ⟨t, sum, number'⟩ := sumSuccessTimes_eq rest number
      exact ⟨t, sum, by simp [number', List.filter_cons, failure]⟩

/-! ### Counting over built records -/

/-- Every record is one that a query path built. --/
def AllLogged (w : World) (recs : List Dict) : Prop := ∀ x ∈ recs, ∃ n k, Logged w n k x

theorem AllLogged.append {w : World} {recs recs' : List Dict} (h : AllLogged w recs) (h' : AllLogged w recs') :
    AllLogged w (recs ++ recs') :=
  fun x hx => (List.mem_append.mp hx).elim (h x) (h' x)

/-- A count whose test returns on every record returns. --/
theorem countWhere_ok {p : Dict → Except String Bool} : ∀ {recs : List Dict}, (∀ x ∈ recs, ∃ b, p x = .ok b) →
    ∃ a, countWhere p recs = .ok a
  | [], _ => ⟨0, rfl⟩
  | x :: recs, h => by
    obtain ⟨b, hb⟩ := h x (List.mem_cons_self x recs)
    obtain ⟨a, ha⟩ := countWhere_ok fun y hy => h y (List.mem_cons_of_mem x hy)
    exact ⟨_, by rw [countWhere, hb, ha]; rfl⟩

section Counts

variable {w : World} {recs : List Dict} (h : AllLogged w recs)
include h

theorem AllLogged.floats : ∀ x ∈ recs, ∃ e, x.get? "execution_time" = some (.float e) := fun x hx => by
  obtain ⟨_, _, logged⟩ := h x hx
  exact logged.time

theorem AllLogged.countWhere_inRound (status : String) (r : Nat) : ∃ a, countWhere (inRound status r) recs = .ok a :=
  countWhere_ok fun x hx => by
    obtain ⟨_, _, logged⟩ := h x hx
    exact ⟨_, inRound_of_logged logged status r⟩

theorem AllLogged.countWhere_statusIs (status : String) : ∃ a, countWhere (statusIs status) recs = .ok a :=
  countWhere_ok fun x hx => by
    obtain ⟨_, _, logged⟩ := h x hx
    exact ⟨_, statusIs_of_logged logged status⟩

end Counts

/-! ### Rounds -/

/-- The records `rnd` of one round over `files`: one a file, each with a time that is not negative, and all of
    them together within the round time `t`. --/
structure WithinRound (files : List SqlFile) (rnd : List Dict) (t : ℚ) : Prop where
  length : rnd.length = files.length
  nonneg : ∀ rec ∈ rnd, 0 ≤ recordTime rec
  total : sumFloats (rnd.map recordTime) ≤ t

theorem WithinRound.mono {files : List SqlFile} {rnd : List Dict} {t t' : ℚ} (h : WithinRound files rnd t)
    (ht : t ≤ t') : WithinRound files rnd t' :=
  ⟨h.length, h.nonneg, h.total.trans ht⟩

/-- The records of rounds within their round times are not negative, and take no longer in all than the rounds. --/
theorem WithinRound.flatten {files : List SqlFile} {rounds : List (List Dict)} {times : List ℚ}
    (h : List.Forall₂ (WithinRound files) rounds times) :
    (∀ rec ∈ rounds.flatten, 0 ≤ recordTime rec) ∧ sumFloats (rounds.flatten.map recordTime) ≤ sumFloats times := by
  induction h with
  | nil => exact ⟨by simp, le_rfl⟩
  | cons first _ ih =>
    rw [List.flatten_cons, List.map_append, sumFloats_append]
    exact ⟨fun rec hr => (List.mem_append.mp hr).elim (first.nonneg rec) (ih.1 rec), add_le_add first.total ih.2⟩

section Budget

variable {w : World} (mono : Monotone w.time) (cm : CaseMap) (detailedTiming : Bool)
include mono

/-- Without EXPLAIN, on a connected executor, a query's record is built by its path, and its time is not
    negative and at most the clock's advance over the call. --/
theorem executeQuery_within (query : List Char) (queryName : String) (m : Machine) (conn : m.self.connected = true) :
    ∃ rec m', (executeQuery cm detailedTiming false query queryName).run w m = .ok rec m' ∧
      Logged w queryName m.reads.now rec ∧ m'.self = m.self ∧ m.reads.time ≤ m'.reads.time ∧
      0 ≤ recordTime rec ∧ recordTime rec ≤ w.time m'.reads.time - w.time m.reads.time := by
  obtain ⟨rec, m', run, logged, self', -, -⟩ :=
    records_executeQuery (w := w) (fun h : false = true => by cases h) cm detailedTiming query queryName m conn
  refine ⟨rec, m', run, logged, self', ?_⟩
  cases detailedTiming
  · obtain ⟨rec', m'', run', time', time⟩ := simple_record w query queryName m conn
    obtain ⟨rfl, rfl⟩ := Outcome.ok.inj (run'.symm.trans run)
    rw [recordTime_of_float time, time']
    exact ⟨by omega, time_sub_nonneg mono (Nat.le_add_right _ 1),
      sub_le_sub_right (mono (Nat.le_add_right (m.reads.time + 1) 1)) _⟩
  · obtain ⟨rec', m'', run', -, later, within⟩ := detailed_record w query queryName m conn
    obtain ⟨rfl, rfl⟩ := Outcome.ok.inj (run'.symm.trans run)
    obtain ⟨x, time, nonneg, le⟩ := within mono
    rw [recordTime_of_float time]
    exact ⟨later, nonneg, le⟩

/-- A round without EXPLAIN appends one record a file, within the clock's advance over the round. --/
theorem runRound_within (r : Nat) : ∀ (files : List SqlFile) (m : Machine), m.self.connected = true →
    ∃ recs m', (runRound cm detailedTiming false r files).run w m = .ok () m' ∧
      m'.self = { m.self with results := m.self.results ++ recs } ∧ AllLogged w recs ∧
      m.reads.time ≤ m'.reads.time ∧ WithinRound files recs (w.time m'.reads.time - w.time m.reads.time)
  | [], m, _ => ⟨[], m, rfl, by simp, by simp [AllLogged], le_rfl, ⟨rfl, by simp, by simp [sumFloats]⟩⟩
  | s :: files, m, conn => by
    obtain ⟨rec, m₁, run₁, logged, self₁, later₁, nonneg₁, le₁⟩ :=
      executeQuery_within mono cm detailedTiming s.content (roundName s.filename r) m conn
    obtain ⟨recs, m₂, run₂, self₂, logs₂, later₂, length₂, nonneg₂, le₂⟩ :=
      runRound_within r files { m₁ with self := { m₁.self with results := m₁.self.results ++ [rec] } }
        (by simpa [self₁] using conn)
    refine ⟨rec :: recs, m₂, ?_, by simp [self₂, self₁], ?_, le_trans later₁ later₂,
      ⟨by simp [length₂], ?_, ?_⟩⟩
    · simp only [runRound, Py.run_bind, run₁, Outcome.bind_ok, modifySelf_run, run₂]
    · exact AllLogged.append (fun x hx => List.mem_singleton.mp hx ▸ ⟨_, _, logged⟩) logs₂
    · exact fun x hx => (List.mem_cons.mp hx).elim (fun h => h ▸ nonneg₁) (nonneg₂ x)
    · dsimp only at le₂
      rw [List.map_cons, sumFloats]
      linarith

/-- Rounds without EXPLAIN keep, for each round, its records and its time, the records within the time. --/
theorem runRounds_within (files : List SqlFile) : ∀ (k r : Nat) (acc : List ℚ) (m : Machine),
    m.self.connected = true → AllLogged w m.self.results →
    ∃ rounds times m', (runRounds cm detailedTiming false files r k acc).run w m = .ok (acc ++ times) m' ∧
      times.length = k ∧ m'.self = { m.self with results := m.self.results ++ rounds.flatten } ∧
      AllLogged w m'.self.results ∧ List.Forall₂ (WithinRound files) rounds times
  | 0, r, acc, m, _, logs => ⟨[], [], m, by simp [runRounds], rfl, by simp, logs, .nil⟩
  | k + 1, r, acc, m, conn, logs => by
    obtain ⟨recs, m₁, run₁, self₁, logs₁, -, within₁⟩ :=
      runRound_within mono cm detailedTiming r files { m with reads.time := m.reads.time + 1 } conn
    have all : AllLogged w (m.self.results ++ recs) := logs.append logs₁
    obtain ⟨a, ha⟩ := all.countWhere_inRound "success" r
    obtain ⟨b, hb⟩ := all.countWhere_inRound "error" r
    let t := w.time m₁.reads.time - w.time m.reads.time
    let m₂ : Machine := { m₁ with reads.time := m₁.reads.time + 1, printed := m₁.printed ++ [⟨r, t, a, b⟩] }
    have step : (runRounds cm detailedTiming false files r (k + 1) acc).run w m =
        (runRounds cm detailedTiming false files (r + 1) k (acc ++ [t])).run w m₂ := by
      simp only [runRounds, Py.run_bind, timeTime_run, run₁, Outcome.bind_ok, getSelf_run, self₁, ha, hb,
        liftExcept, Py.run_pure, printRound_run, m₂, t]
    obtain ⟨rounds, times, m', run', length', self', logs', within'⟩ :=
      runRounds_within files k (r + 1) (acc ++ [t]) m₂ (by simp [m₂, self₁, conn]) (by simpa [m₂, self₁] using all)
    refine ⟨recs :: rounds, t :: times, m', by rw [step, run', List.append_assoc]; rfl, by simp [length'],
      by simp [self', m₂, self₁], logs', .cons (within₁.mono ?_) within'⟩
    exact sub_le_sub_left (mono (Nat.le_add_right m.reads.time 1)) _

/-- After a successful `connect()` on an executor without results, `execute_all_queries` without EXPLAIN keeps
    `N` round times and, round by round, records within them. --/
theorem executeAllQueries_within {N : Nat} (hN : 1 ≤ N) (m : Machine) (empty : m.self.results = []) {dt : ℚ}
    {m₁ : Machine} (connected : connect.run w m = .ok (true, dt) m₁) :
    ∃ m', (executeAllQueries cm N detailedTiming false).run w m = .ok () m' ∧ AllLogged w m'.self.results ∧
      m'.self.roundTimes.length = N ∧ ∃ rounds, m'.self.results = rounds.flatten ∧
        List.Forall₂ (WithinRound (loadSqlFiles w.sqlDir)) rounds m'.self.roundTimes := by
  obtain ⟨ok, dt', m₁', run₁, -, -, self₁, conn₁, -⟩ := connect_spec w m
  obtain ⟨pair, rfl⟩ := Outcome.ok.inj (connected.symm.trans run₁)
  obtain ⟨rfl, rfl⟩ := Prod.mk.inj pair
  have conn : m₁.self.connected = true := conn₁ rfl
  replace self₁ : m₁.self = { m.self with connected := true } := by rw [self₁, conn]
  let m₂ := { m₁ with self := { m₁.self with connectTime := dt } }
  obtain ⟨rounds, times, m', run', length', self', logs', within'⟩ :=
    runRounds_within mono cm detailedTiming (loadSqlFiles w.sqlDir) N 1 [] m₂ (by simpa [m₂] using conn)
      (by simp [m₂, self₁, empty, AllLogged])
  have notZero : ((N : Int) = 0) = False := by simp; omega
  have notEmpty : times.isEmpty = false := by
    rw [List.isEmpty_eq_false_iff_exists_mem]
    exact List.exists_mem_of_length_pos (by omega)
  refine ⟨{ m' with self := { m'.self with roundTimes := times } }, ?_, logs', length', rounds,
    by simp [self', m₂, self₁, empty], within'⟩
  simp only [executeAllQueries, Py.run_bind, connected, Outcome.bind_ok, Bool.not_true, Bool.false_eq_true,
    if_false, Py.run_pure, modifySelf_run, sqlDir_run, Int.toNat_ofNat, run', notZero, List.nil_append, notEmpty]
  rfl

end Budget

/-! ### The saved totals -/

/-- A summary whose `total_execution_time` is a number that is not negative and at most its
    `total_round_time`. --/
def ExecutionWithinRounds (summary : Dict) : Prop :=
  ∃ total x t, summary.get? "total_execution_time" = some total ∧ total.number? = some x ∧
    summary.get? "total_round_time" = some (.float t) ∧ 0 ≤ x ∧ x ≤ t

/-- For built records that are rounds within non-empty round times, `save_results` writes a total execution
    time within the total round time. --/
theorem saveData_within {w : World} {ex : Executor} (logs : AllLogged w ex.results) {files : List SqlFile}
    {rounds : List (List Dict)} (results : ex.results = rounds.flatten)
    (within : List.Forall₂ (WithinRound files) rounds ex.roundTimes) (ran : ex.roundTimes ≠ []) :
    ∃ doc summary : Dict, saveData ex = .ok (.obj doc) ∧ doc.get? "summary" = some (.obj summary) ∧
      ExecutionWithinRounds summary := by
  obtain ⟨nonneg, le⟩ := results ▸ WithinRound.flatten within
  obtain ⟨total, sum, number⟩ := sumSuccessTimes_eq logs.floats (show (Json.int 0).number? = some 0 from rfl)
  obtain ⟨s, hs⟩ := logs.countWhere_statusIs "success"
  obtain ⟨f, hf⟩ := logs.countWhere_statusIs "error"
  obtain ⟨t, ts, times⟩ := List.exists_cons_of_ne_nil ran
  simp only [saveData, sum, hs, hf, bind, Except.bind, pure, Except.pure]
  refine ⟨_, _, rfl, rfl, total, _, sumFloats ex.roundTimes, by simp [Dict.get?, List.lookup_cons], number,
    by simp [Dict.get?, List.lookup_cons, List.lookup_append, roundSummary, times], ?_, ?_⟩
  · exact add_nonneg le_rfl (sumFloats_map_nonneg recordTime fun x hx => nonneg x (List.mem_filter.mp hx).1)
  · calc 0 + sumFloats ((ex.results.filter fun r => (r.get "status").eqStr "success").map recordTime)
        ≤ sumFloats (ex.results.map recordTime) := by
          rw [zero_add]; exact sumFloats_filter_le recordTime _ nonneg
      _ ≤ sumFloats ex.roundTimes := le

/-- While `time.time()` does not go backwards, a run without EXPLAIN accounts for its time. After a successful
    `connect()` on an executor without results, `execute_all_queries` with `N ≥ 1` rounds returns, and its
    records are those of its rounds in order, one a file, each with a time that is not negative, and a round's
    records take no longer in all than that round's time in `round_times`. `save_results` then writes a
    `total_execution_time` that is not negative and at most the `total_round_time`. --/
theorem executeAllQueries_within_round_times {w : World} (mono : Monotone w.time) (cm : CaseMap)
    (detailedTiming : Bool) {N : Nat} (hN : 1 ≤ N) (m : Machine) (empty : m.self.results = []) :
    ∀ dt m₁, connect.run w m = .ok (true, dt) m₁ →
      ∃ m', (executeAllQueries cm N detailedTiming false).run w m = .ok () m' ∧
        (∃ rounds, m'.self.results = rounds.flatten ∧
          List.Forall₂ (WithinRound (loadSqlFiles w.sqlDir)) rounds m'.self.roundTimes) ∧
        ∀ outputFile, ∃ fileName doc summary m'',
          (saveResults outputFile).run w m' = .ok (fileName, .ok (.obj doc)) m'' ∧
          Dict.get? doc "summary" = some (.obj summary) ∧ ExecutionWithinRounds summary := by
  intro dt m₁ connected
  obtain ⟨m', run, logs, length, rounds, results, within⟩ :=
    executeAllQueries_within mono cm detailedTiming hN m empty connected
  refine ⟨m', run, ⟨rounds, results, within⟩, fun outputFile => ?_⟩
  obtain ⟨doc, summary, save, found, budget⟩ :=
    saveData_within logs results within (List.ne_nil_of_length_pos (by omega))
  obtain ⟨fileName, m'', saved⟩ := saveResults_run outputFile w m'
  exact ⟨fileName, doc, summary, m'', by rw [saved, save], found, budget⟩

theorem executeAllQueries_within_round_times_overlapWorld :
    Monotone overlapWorld.time ∧ 1 ≤ 1 ∧ freshMachine.self.results = [] ∧
    (∃ dt m₁, connect.run overlapWorld freshMachine = .ok (true, dt) m₁) ∧
    ∀ dt m₁, connect.run overlapWorld freshMachine = .ok (true, dt) m₁ →
      ∃ m', (executeAllQueries CaseMap.ascii 1 true false).run overlapWorld freshMachine = .ok () m' ∧
        (∃ rounds, m'.self.results = rounds.flatten ∧
          List.Forall₂ (WithinRound (loadSqlFiles overlapWorld.sqlDir)) rounds m'.self.roundTimes) ∧
        ∀ outputFile, ∃ fileName doc summary m'',
          (saveResults outputFile).run overlapWorld m' = .ok (fileName, .ok (.obj doc)) m'' ∧
          Dict.get? doc "summary" = some (.obj summary) ∧ ExecutionWithinRounds summary :=
  have mono : Monotone overlapWorld.time := fun _ _ _ => le_rfl
  ⟨mono, le_refl 1, rfl, ⟨_, _, rfl⟩,
    executeAllQueries_within_round_times mono CaseMap.ascii true (le_refl 1) freshMachine rfl⟩

end TeeSelector
