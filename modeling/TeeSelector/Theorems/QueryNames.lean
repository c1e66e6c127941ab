import TeeSelector.Mapping
import TeeSelector.Theorems.Clock
import TeeSelector.Theorems.Report

/-! `load_query_names` on the report of a run gives back the names of the records in the order they were run,
    as long as the wall clock did not go backwards during the run. Every record carries a non-empty name and its
    `isoformat()` timestamp; the timestamps of later records are never less as str, so the stable sort by
    timestamp leaves the records where they are. -/

namespace TeeSelector

/-! ### Sort keys -/

/-- The sort keys `load_query_names` builds for records named `names`, stamped from the `k`-th wall clock reading
    on. --/
def stamps (w : World) : Nat → List String → List (String × Json)
  | _, [] => []
  | k, n :: ns => (⟨(w.now k).isoformat⟩, .str n) :: stamps w (k + 1) ns

theorem mem_stamps {w : World} : ∀ {k : Nat} {names : List String} {p : String × Json}, p ∈ stamps w k names →
    ∃ j, k ≤ j ∧ j < k + names.length ∧ p.1 = ⟨(w.now j).isoformat⟩
  | _, [], _, h => by simp [stamps] at h
  | k, _ :: _, _, h => by
    rcases List.mem_cons.mp h with rfl | h
    · exact ⟨k, le_rfl, by simp, rfl⟩
    · obtain ⟨j, le, lt, eq⟩ := mem_stamps h
      exact ⟨j, by omega, by simp at lt ⊢; omega, eq⟩

/-- A wall clock that does not go backwards from reading `k` to reading `n - 1` gives no earlier instant at a
    later reading in between. --/
theorem instant_mono {w : World} {k n : Nat}
    (clock : ∀ i, k ≤ i → i + 1 < n → (w.now i).instant ≤ (w.now (i + 1)).instant) :
    ∀ j, k ≤ j → j < n → (w.now k).instant ≤ (w.now j).instant := by
  intro j hj
  induction j, hj using Nat.le_induction with
  | base => exact fun _ => le_rfl
  | succ j hj ih => exact fun hn => (ih (by omega)).trans (clock j hj hn)

theorem isoformat_ne_empty (d : DateTime) : String.mk d.isoformat ≠ "" := fun h => by
  simpa [DateTime.isoformat, digits] using congrArg String.data h

theorem truthy_str {s : String} (ne : s ≠ "") : (Json.str s).truthy = true := by
  simpa [Json.truthy] using fun h => ne ((String.isEmpty_iff s).mp h)

section Logged

variable {w : World}

/-- Each logged record with a non-empty name is kept, with its timestamp and name. --/
theorem keptEntries_logged : ∀ {k : Nat} {names : List String} {recs : List Dict}, LoggedFrom w k names recs →
    (∀ n ∈ names, n ≠ "") → keptEntries (recs.map .obj) = .ok ((stamps w k names).map fun p => (.str p.1, p.2))
  | _, [], [], _, _ => rfl
  | k, n :: _, r :: _, ⟨head, tail⟩, named => by
    have name : r.get "query_name" = .str n := by simp [Dict.get, head.name]
    have stamp : r.get "timestamp" = .str ⟨(w.now k).isoformat⟩ := by simp [Dict.get, head.stamp]
    simp only [List.map_cons, keptEntries, keptEntry, Json.asDict, name, stamp,
      truthy_str (named n (List.mem_cons_self _ _)), truthy_str (isoformat_ne_empty _), Bool.and_self, if_true,
      keptEntries_logged tail fun n m => named n (List.mem_cons_of_mem _ m), bind, Except.bind, pure, Except.pure]
    rfl

theorem mapM_sortKey : ∀ l : List (String × Json), (l.map fun p => (Json.str p.1, p.2)).mapM sortKey = .ok l
  | [] => rfl
  | p :: l => by rw [List.map_cons, List.mapM_cons, mapM_sortKey l]; rfl

/-- With a wall clock that does not go backwards while it stamps the records, their sort keys are already in
    order. --/
theorem stamps_sorted : ∀ (k : Nat) (names : List String),
    (∀ i, k ≤ i → i + 1 < k + names.length → (w.now i).instant ≤ (w.now (i + 1)).instant) →
    (stamps w k names).Pairwise fun a b => !decide (b.1 < a.1)
  | _, [], _ => List.Pairwise.nil
  | k, _ :: names, clock => by
    refine List.Pairwise.cons (fun b m => ?_) (stamps_sorted (k + 1) names fun i le lt => clock i (by omega)
      (by simp at lt ⊢; omega))
    obtain ⟨j, le, lt, eq⟩ := mem_stamps m
    have later := instant_mono clock j (by omega) (by simp at lt ⊢; omega)
    simpa [eq] using not_isoformat_lt_of_instant_le later

theorem stamps_snd : ∀ (k : Nat) (names : List String), (stamps w k names).map Prod.snd = names.map .str
  | _, [] => rfl
  | k, _ :: names => by simp [stamps, stamps_snd (k + 1) names]

theorem LoggedFrom.names : ∀ {k : Nat} {names : List String} {recs : List Dict}, LoggedFrom w k names recs →
    recs.map (Dict.get · "query_name") = names.map .str
  | _, [], [], _ => rfl
  | _, _ :: _, _ :: _, ⟨head, tail⟩ => by
    rw [List.map_cons, List.map_cons, LoggedFrom.names tail]
    simp [Dict.get, head.name]

/-- `load_query_names` on a document whose `query_results` are logged records with non-empty names, stamped by a
    wall clock that did not go backwards meanwhile: their names, in order. --/
theorem loadQueryNames_logged {k : Nat} {names : List String}
    (clock : ∀ i, k ≤ i → i + 1 < k + names.length → (w.now i).instant ≤ (w.now (i + 1)).instant)
    {recs : List Dict} (logged : LoggedFrom w k names recs) (named : ∀ n ∈ names, n ≠ "") {doc : Dict} (results : doc.get? "query_results" = some (.arr (recs.map .obj))) :
    loadQueryNames (.obj doc) = .ok (recs.map (Dict.get · "query_name")) := by
  simp only [loadQueryNames, Json.asDict, Dict.getD, results, Option.getD_some, Json.iter,
    keptEntries_logged logged named, mapM_sortKey, bind, Except.bind, pure, Except.pure,
    List.mergeSort_of_sorted (stamps_sorted k names clock), stamps_snd, logged.names]

end Logged

/-! ### The report of a run -/

theorem roundNames_ne_empty (files : List SqlFile) : ∀ (r k : Nat), ∀ n ∈ roundNames files r k, n ≠ ""
  | _, 0, _, h => by simp [roundNames] at h
  | r, k + 1, n, h => by
    rcases List.mem_append.mp h with h | h
    · obtain ⟨s, -, rfl⟩ := List.mem_map.mp h
      intro empty
      simpa [roundName, show "_round".length = 6 from rfl] using congrArg String.length empty
    · exact roundNames_ne_empty files (r + 1) k n h

/-- A run that returns leaves, on an executor that had none, records with non-empty names stamped from the
    wall clock readings on; with no connection there are none, and a count below one raises. --/
theorem executeAllQueries_logged {w : World} {runExplain : Bool} (columns : runExplain = true → w.HasColumns)
    (cm : CaseMap) (iterations : Int) (detailedTiming : Bool) {m m' : Machine} (empty : m.self.results = [])
    (run : (executeAllQueries cm iterations detailedTiming runExplain).run w m = .ok () m') :
    ∃ names, LoggedFrom w m.reads.now names m'.self.results ∧ (∀ n ∈ names, n ≠ "") ∧
      m'.reads.now = m.reads.now + names.length := by
  obtain ⟨ok, dt, m₁, run₁, now₁, -, self₁, -, -⟩ := connect_spec w m
  cases ok with
  | false =>
    simp only [executeAllQueries, Py.run_bind, run₁, Outcome.bind_ok, Bool.not_false, ↓reduceIte, Py.run_pure] at run
    obtain ⟨-, rfl⟩ := Outcome.ok.inj run
    have results : m₁.self.results = [] := by rw [self₁]; exact empty
    exact ⟨[], by rw [results]; trivial, by simp, now₁⟩
  | true =>
    rcases Nat.eq_zero_or_pos iterations.toNat with zero | pos
    · simp only [executeAllQueries, Py.run_bind, run₁, Outcome.bind_ok, Bool.not_true, Bool.false_eq_true,
        ↓reduceIte, modifySelf_run, sqlDir_run, zero, runRounds, Py.run_pure, List.isEmpty_nil] at run
      split_ifs at run <;> simp at run
    · have cast : iterations = (iterations.toNat : Int) := (Int.toNat_of_nonneg (by omega)).symm
      rw [cast] at run
      obtain ⟨recs, times, -, m'', run', logged, -, self', -, -, -, now'⟩ :=
        executeAllQueries_spec columns cm detailedTiming pos m empty run₁
      obtain ⟨-, rfl⟩ := Outcome.ok.inj (run.symm.trans run')
      exact ⟨_, by simpa [self'] using logged, roundNames_ne_empty _ 1 _, by rw [now', logged.length_eq]⟩

/-- Applied to the report `save_results` writes after a run, `load_query_names` gives the names of the records in
    the order they were run, when the wall clock did not go backwards during the run. --/
theorem loadQueryNames_saveResults {w : World} {runExplain : Bool} (columns : runExplain = true → w.HasColumns)
    (cm : CaseMap) (iterations : Int) (detailedTiming : Bool) {m m' : Machine} (empty : m.self.results = [])
    (run : (executeAllQueries cm iterations detailedTiming runExplain).run w m = .ok () m')
    (clock : ∀ i, m.reads.now ≤ i → i + 1 < m'.reads.now → (w.now i).instant ≤ (w.now (i + 1)).instant)
    (outputFile : Option String) :
    ∃ (fileName : String) (m'' : Machine) (doc : Dict), (saveResults outputFile).run w m' = .ok (fileName, .ok (.obj doc)) m'' ∧
      doc.get? "query_results" = some (.arr (m'.self.results.map .obj)) ∧
      loadQueryNames (.obj doc) = .ok (m'.self.results.map (Dict.get · "query_name")) := by
  obtain ⟨names, logged, named, now⟩ := executeAllQueries_logged columns cm iterations detailedTiming empty run
  obtain ⟨doc, save, results⟩ := saveData_query_results logged
  obtain ⟨fileName, m'', saved⟩ := saveResults_run outputFile w m'
  exact ⟨fileName, m'', doc, save ▸ saved, results,
    loadQueryNames_logged (fun i le lt => clock i le (now ▸ lt)) logged named results⟩

/-- Two rounds over one file in the sample world, whose wall clock stands still so that all timestamps are
    equal. --/
theorem loadQueryNames_saveResults_overlapWorld :
    ∃ m', (false = true → overlapWorld.HasColumns) ∧ freshMachine.self.results = [] ∧
      (executeAllQueries .ascii 2 false false).run overlapWorld freshMachine = .ok () m' ∧
      (∀ i, freshMachine.reads.now ≤ i → i + 1 < m'.reads.now →
        (overlapWorld.now i).instant ≤ (overlapWorld.now (i + 1)).instant) ∧
      ∃ (fileName : String) (m'' : Machine) (doc : Dict),
        (saveResults none).run overlapWorld m' = .ok (fileName, .ok (.obj doc)) m'' ∧
        doc.get? "query_results" = some (.arr (m'.self.results.map .obj)) ∧
        loadQueryNames (.obj doc) = .ok (m'.self.results.map (Dict.get · "query_name")) := by
  have columns : false = true → overlapWorld.HasColumns := fun h => by cases h
  obtain ⟨dt, m₁, connected⟩ : ∃ dt m₁, connect.run overlapWorld freshMachine = .ok (true, dt) m₁ := ⟨_, _, rfl⟩
  obtain ⟨-, -, -, m', run, -⟩ :=
    executeAllQueries_spec columns .ascii false (by decide : 1 ≤ 2) freshMachine rfl connected
  exact ⟨m', columns, rfl, run, fun _ _ _ => le_rfl,
    loadQueryNames_saveResults columns .ascii 2 false rfl run (fun _ _ _ => le_rfl) none⟩

end TeeSelector
