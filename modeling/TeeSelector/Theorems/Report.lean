import TeeSelector.Theorems.Run

/-! The report of a run. After a successful `connect()`, `execute_all_queries` leaves `N·|F|` records, each
    with a status, and `save_results` then writes a summary whose counts add up and whose average round time
    is the total over `N`. Its average query time divides the success total by the number of all records,
    failed ones included. -/

namespace TeeSelector

/-! ### The saved summary -/

theorem Json.add_float {a : Json} {q : ℚ} (h : a.number? = some q) (x : ℚ) :
    a.add (.float x) = .ok (.float (q + x)) := by
  cases a <;> simp_all [Json.add, Json.int?, Json.number?]

section Save

variable {w : World}

/-- Over logged records, the total of the successful execution times is a number. --/
theorem sumSuccessTimes_logged : ∀ {k : Nat} {names : List String} {recs : List Dict},
    LoggedFrom w k names recs → ∀ {total : Json} {q : ℚ}, total.number? = some q →
      ∃ t x, sumSuccessTimes total recs = .ok t ∧ t.number? = some x
  | _, [], [], _, _, q, number => ⟨_, q, rfl, number⟩
  | _, _ :: _, r :: _, ⟨head, tail⟩, total, q, number => by
    obtain ⟨e, time⟩ := head.time
    unfold sumSuccessTimes
    split
    · have add : total.add (r.getD "execution_time" (.float 0)) = .ok (.float (q + e)) := by
        simpa [Dict.getD, time] using Json.add_float number e
      rw [add]
      exact sumSuccessTimes_logged tail rfl
    · exact sumSuccessTimes_logged tail number

theorem statusIs_of_logged {n : String} {k : Nat} {x : Dict} (h : Logged w n k x) (status : String) :
    statusIs status x = .ok ((x.get "status").eqStr status) := by
  rcases h.status with st | st <;> simp [statusIs, Dict.getItem, Dict.get, st]

/-- Every logged record counts as a success or as a failure. --/
theorem count_statuses : ∀ {k : Nat} {names : List String} {recs : List Dict}, LoggedFrom w k names recs →
    ∃ s f, countWhere (statusIs "success") recs = .ok s ∧ countWhere (statusIs "error") recs = .ok f ∧
      s + f = recs.length
  | _, [], [], _ => ⟨0, 0, rfl, rfl, rfl⟩
  | _, _ :: _, x :: _, ⟨head, tail⟩ => by
    obtain ⟨s, f, hs, hf, sum⟩ := count_statuses tail
    refine ⟨_, _, by rw [countWhere, statusIs_of_logged head, hs]; rfl,
      by rw [countWhere, statusIs_of_logged head, hf]; rfl, ?_⟩
    rcases head.status with st | st <;> simp [Dict.get, st, Json.eqStr] <;> omega

end Save

/-- The summary `save_results` writes for `n` records over `N` rounds: the records split into successes and
    failures, and the average round time is the total round time over `N`. --/
structure Summarized (N n : Nat) (summary : Dict) : Prop where
  total : summary.get? "total_queries" = some (.int n)
  split : ∃ s f : Nat, summary.get? "successful_queries" = some (.int s) ∧
    summary.get? "failed_queries" = some (.int f) ∧ s + f = n
  rounds : summary.get? "rounds" = some (.int N)
  average : ∃ t, summary.get? "total_round_time" = some (.float t) ∧
    summary.get? "average_round_time" = some (.float (t / N))

/-- For an executor whose records are logged and whose `N ≥ 1` round times are set, `save_results` writes a
    summary of them and the records themselves. --/
theorem saveData_summarized {w : World} {k : Nat} {names : List String} {ex : Executor}
    (logged : LoggedFrom w k names ex.results) {N : Nat} (rounds : ex.roundTimes.length = N) (hN : 1 ≤ N) :
    ∃ doc summary : Dict, saveData ex = .ok (.obj doc) ∧ doc.get? "summary" = some (.obj summary) ∧
      doc.get? "query_results" = some (.arr (ex.results.map .obj)) ∧ Summarized N ex.results.length summary := by
  obtain ⟨total, x, sum, -⟩ := sumSuccessTimes_logged logged (show (Json.int 0).number? = some 0 from rfl)
  obtain ⟨s, f, hs, hf, split⟩ := count_statuses logged
  obtain ⟨t, ts, times⟩ : ∃ t ts, ex.roundTimes = t :: ts :=
    List.exists_cons_of_ne_nil (by rintro h; simp [h] at rounds; omega)
  simp only [saveData, sum, hs, hf, bind, Except.bind, pure, Except.pure]
  refine ⟨_, _, rfl, rfl, rfl, ?_⟩
  rw [times] at rounds
  subst rounds
  constructor <;> simp [Dict.get?, List.lookup_cons, List.lookup_append, roundSummary, times, split]

/-- Over logged records `save_results` writes a document, whatever the round times, and its `query_results`
    are the records in order. --/
theorem saveData_query_results {w : World} {k : Nat} {names : List String} {ex : Executor}
    (logged : LoggedFrom w k names ex.results) :
    ∃ doc : Dict, saveData ex = .ok (.obj doc) ∧ doc.get? "query_results" = some (.arr (ex.results.map .obj)) := by
  obtain ⟨total, x, sum, -⟩ := sumSuccessTimes_logged logged (show (Json.int 0).number? = some 0 from rfl)
  obtain ⟨s, f, hs, hf, -⟩ := count_statuses logged
  simp only [saveData, sum, hs, hf, bind, Except.bind, pure, Except.pure]
  exact ⟨_, rfl, rfl⟩

/-- `save_results` writes the document of the executor as it is. --/
theorem saveResults_run (outputFile : Option String) (w : World) (m : Machine) :
    ∃ fileName m', (saveResults outputFile).run w m = .ok (fileName, saveData m.self) m' := by
  cases outputFile <;> exact ⟨_, _, rfl⟩

/-! ### The records of a run -/

/-- The records of `N` rounds over the files `files`: record `r·|F| + i`, counted from zero, is named
    `{files[i].filename}_round{r + 1}` and has status `success` or `error`. --/
structure RoundRecords (N : Nat) (files : List SqlFile) (results : List Dict) : Prop where
  length : results.length = N * files.length
  record : ∀ r < N, ∀ i (hi : i < files.length), ∃ rec, results[r * files.length + i]? = some rec ∧
    rec.get? "query_name" = some (.str (roundName files[i].filename (r + 1))) ∧
    (rec.get? "status" = some (.str "success") ∨ rec.get? "status" = some (.str "error"))

theorem roundNames_length (files : List SqlFile) : ∀ r k, (roundNames files r k).length = k * files.length
  | _, 0 => by simp [roundNames]
  | r, k + 1 => by simp [roundNames, roundNames_length files (r + 1) k, Nat.succ_mul, Nat.add_comm]

theorem roundNames_getElem? (files : List SqlFile) : ∀ (r k q : Nat), q < k → ∀ i (hi : i < files.length),
    (roundNames files r k)[q * files.length + i]? = some (roundName files[i].filename (r + q))
  | _, 0, _, hq, _, _ => absurd hq (Nat.not_lt_zero _)
  | r, k + 1, 0, _, i, hi => by simp [roundNames, List.getElem?_append_left, hi]
  | r, k + 1, q + 1, hq, i, hi => by
    have idx : (q + 1) * files.length + i - (files.map fun s => roundName s.filename r).length =
        q * files.length + i := by
      rw [List.length_map, Nat.succ_mul]; omega
    rw [roundNames, List.getElem?_append_right (by rw [List.length_map, Nat.succ_mul]; omega), idx,
      roundNames_getElem? files (r + 1) k q (by omega) i hi, Nat.add_assoc, Nat.add_comm 1 q]

theorem LoggedFrom.getElem? {w : World} : ∀ {k : Nat} {names : List String} {recs : List Dict},
    LoggedFrom w k names recs → ∀ {j : Nat} {n : String}, names[j]? = some n →
      ∃ rec, recs[j]? = some rec ∧ Logged w n (k + j) rec
  | _, [], [], _, _, _, h => by simp at h
  | _, _ :: _, x :: _, ⟨head, _⟩, 0, _, h => by
    simp only [List.getElem?_cons_zero, Option.some.injEq] at h
    exact ⟨x, List.getElem?_cons_zero, h ▸ head⟩
  | _, _ :: _, _ :: _, ⟨_, tail⟩, j + 1, _, h => by
    simpa [Nat.add_assoc, Nat.add_comm 1] using tail.getElem? (by simpa using h)

theorem roundRecords_of_logged {w : World} {k N : Nat} {files : List SqlFile} {recs : List Dict}
    (logged : LoggedFrom w k (roundNames files 1 N) recs) : RoundRecords N files recs where
  length := by rw [logged.length_eq, roundNames_length]
  record r hr i hi := by
    obtain ⟨rec, found, h⟩ := logged.getElem? (roundNames_getElem? files 1 N r hr i hi)
    exact ⟨rec, found, by rw [h.name, Nat.add_comm], h.status⟩

/-- On an executor without records, `connect()` always returns. When it succeeds, `execute_all_queries` with
    `N ≥ 1` rounds appends `N·|F|` records for the files `F` that `load_sql_files` finds, in round and file
    order, each with status `success` or `error`; it sets `N` round times, and `save_results` then writes a
    summary of `N·|F|` queries that split into successes and failures, with `N` rounds and the average round
    time the total over `N`. When it fails, the records, round times and connect time stay as they were. --/
theorem executeAllQueries_records (cm : CaseMap) {w : World} (m : Machine) (empty : m.self.results = [])
    {N : Nat} (hN : 1 ≤ N) (detailedTiming runExplain : Bool) (columns : runExplain = true → w.HasColumns) :
    (∃ ok dt m₁, connect.run w m = .ok (ok, dt) m₁) ∧
    (∀ dt m₁, connect.run w m = .ok (true, dt) m₁ →
      ∃ m', (executeAllQueries cm N detailedTiming runExplain).run w m = .ok () m' ∧
        RoundRecords N (loadSqlFiles w.sqlDir) m'.self.results ∧ m'.self.roundTimes.length = N ∧
        ∀ outputFile, ∃ fileName doc summary m'', (saveResults outputFile).run w m' = .ok (fileName, .ok (.obj doc)) m'' ∧
          Dict.get? doc "summary" = some (.obj summary) ∧ Summarized N (N * (loadSqlFiles w.sqlDir).length) summary) ∧
    (∀ dt m₁, connect.run w m = .ok (false, dt) m₁ →
      ∃ m', (executeAllQueries cm N detailedTiming runExplain).run w m = .ok () m' ∧
        m'.self.results = m.self.results ∧ m'.self.roundTimes = m.self.roundTimes ∧
        m'.self.connectTime = m.self.connectTime) := by
  obtain ⟨ok, dt, m₁, run₁, -, -, self₁, -, -⟩ := connect_spec w m
  refine ⟨⟨ok, dt, m₁, run₁⟩, fun dt m₁ connected => ?_, fun dt m₁ failed => ?_⟩
  · obtain ⟨recs, times, reports, m', run, logged, length, self', -⟩ :=
      executeAllQueries_spec columns cm detailedTiming hN m empty connected
    have results : m'.self.results = recs := by rw [self']
    have logged' : LoggedFrom w m.reads.now (roundNames (loadSqlFiles w.sqlDir) 1 N) m'.self.results :=
      results ▸ logged
    refine ⟨m', run, roundRecords_of_logged logged', by rw [self', length], fun outputFile => ?_⟩
    obtain ⟨doc, summary, save, found, -, summarized⟩ :=
      saveData_summarized logged' (by rw [self', length]) hN
    obtain ⟨fileName, m'', saved⟩ := saveResults_run outputFile w m'
    refine ⟨fileName, doc, summary, m'', by rw [saved, save], found, ?_⟩
    rwa [(roundRecords_of_logged logged').length] at summarized
  · obtain ⟨pair, rfl⟩ := Outcome.ok.inj (run₁.symm.trans failed)
    obtain ⟨rfl, rfl⟩ := Prod.mk.inj pair
    refine ⟨m₁, ?_, by rw [self₁], by rw [self₁], by rw [self₁]⟩
    simp only [executeAllQueries, Py.run_bind, failed, Outcome.bind_ok, Bool.not_false, if_true, Py.run_pure]

theorem executeAllQueries_records_overlapWorld :
    freshMachine.self.results = [] ∧ 1 ≤ 1 ∧ (false = true → overlapWorld.HasColumns) ∧
    (∃ ok dt m₁, connect.run overlapWorld freshMachine = .ok (ok, dt) m₁) ∧
    (∀ dt m₁, connect.run overlapWorld freshMachine = .ok (true, dt) m₁ →
      ∃ m', (executeAllQueries CaseMap.ascii 1 false false).run overlapWorld freshMachine = .ok () m' ∧
        RoundRecords 1 (loadSqlFiles overlapWorld.sqlDir) m'.self.results ∧ m'.self.roundTimes.length = 1 ∧
        ∀ outputFile, ∃ fileName doc summary m'',
          (saveResults outputFile).run overlapWorld m' = .ok (fileName, .ok (.obj doc)) m'' ∧
          Dict.get? doc "summary" = some (.obj summary) ∧
          Summarized 1 (1 * (loadSqlFiles overlapWorld.sqlDir).length) summary) ∧
    (∀ dt m₁, connect.run overlapWorld freshMachine = .ok (false, dt) m₁ →
      ∃ m', (executeAllQueries CaseMap.ascii 1 false false).run overlapWorld freshMachine = .ok () m' ∧
        m'.self.results = freshMachine.self.results ∧ m'.self.roundTimes = freshMachine.self.roundTimes ∧
        m'.self.connectTime = freshMachine.self.connectTime) :=
  have columns : false = true → overlapWorld.HasColumns := fun h => by cases h
  ⟨rfl, le_refl 1, columns,
    executeAllQueries_records CaseMap.ascii freshMachine rfl (le_refl 1) false false columns⟩

/-! ### The average query time -/

/-- An executor holding one success that took a second and one failure. --/
def oneSuccessOneFailure : Executor :=
  { Executor.init "bare_metal" false [] none with
    results := [[("status", .str "success"), ("execution_time", .float 1)],
      [("status", .str "error"), ("execution_time", .float 1)]] }

/-- With one success that took a second and one failure, `save_results` writes an average query time of half a
    second: the success total over both records, not over the one success. --/
theorem saveData_average_over_all_records :
    ∃ doc summary : Dict, saveData oneSuccessOneFailure = .ok (.obj doc) ∧
      doc.get? "summary" = some (.obj summary) ∧ summary.get? "successful_queries" = some (.int 1) ∧
      summary.get? "total_execution_time" = some (.float 1) ∧
      summary.get? "average_query_time" = some (.float (1 / 2)) := by
  refine ⟨_, _, rfl, rfl, ?_⟩
  simp [oneSuccessOneFailure, Executor.init, Dict.get?, List.lookup_cons, Json.eqStr, Json.number?, roundSummary]

end TeeSelector
