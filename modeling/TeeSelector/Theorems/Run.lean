import TeeSelector.Executor

/-! Runs of `execute_all_queries`. Once `connect()` has succeeded, every round appends one record per query
    file, named `{filename}_round{r}`, with status `success` or `error` and the timestamp of the next wall
    clock reading, whatever the database replies; so `self.results` ends up as the records of rounds `1..N`
    in order.

    The proof goes bottom up. A `try` block only reads the clock and the database (`Py.Keeps`); a query path
    on a connected executor returns a well-formed record and reads the wall clock once (`Py.Records`); a
    round appends the records of its files (`LoggedFrom`), and the rounds add up by induction. -/

namespace TeeSelector

/-! ### Steps that keep the executor -/

/-- `m'` differs from `m` at most in how far the clock and the database have been read. --/
structure Machine.Frame (m m' : Machine) : Prop where
  self : m'.self = m.self
  now : m'.reads.now = m.reads.now
  printed : m'.printed = m.printed

theorem Machine.Frame.trans {m₁ m₂ m₃ : Machine} (h₁ : m₁.Frame m₂) (h₂ : m₂.Frame m₃) : m₁.Frame m₃ :=
  ⟨h₂.self.trans h₁.self, h₂.now.trans h₁.now, h₂.printed.trans h₁.printed⟩

/-- On world `w`, `x` always returns, reads nothing but the clock and the database, and returns a value that
    satisfies `post`. --/
def Py.Keeps {α : Type} (w : World) (x : Py α) (post : α → Prop) : Prop :=
  ∀ m, ∃ a m', x.run w m = .ok a m' ∧ m.Frame m' ∧ post a

/-- A `try` block that keeps the executor, and whose value satisfies `post` where the block does not raise. --/
def Py.Tries {α : Type} (w : World) (x : ExceptT String Py α) (post : α → Prop) : Prop :=
  Py.Keeps w x.run fun r => ∀ a, r = .ok a → post a

namespace Py

variable {α β : Type} {w : World}

theorem Keeps.pure {post : α → Prop} {a : α} (h : post a) : Keeps w (Pure.pure a) post :=
  fun m => ⟨a, m, rfl, ⟨rfl, rfl, rfl⟩, h⟩

theorem Keeps.bind {x : Py α} {f : α → Py β} {p : α → Prop} {q : β → Prop} (hx : Keeps w x p)
    (hf : ∀ a, p a → Keeps w (f a) q) : Keeps w (x >>= f) q := by
  intro m
  obtain ⟨a, m₁, run₁, frame₁, post₁⟩ := hx m
  obtain ⟨b, m₂, run₂, frame₂, post₂⟩ := hf a post₁ m₁
  exact ⟨b, m₂, by rw [run_bind, run₁, Outcome.bind_ok, run₂], frame₁.trans frame₂, post₂⟩

theorem Tries.pure {post : α → Prop} {a : α} (h : post a) : Tries w (Pure.pure a) post :=
  Keeps.pure fun _ ok => by cases ok; exact h

theorem Tries.bind {x : ExceptT String Py α} {f : α → ExceptT String Py β} {p : α → Prop} {q : β → Prop}
    (hx : Tries w x p) (hf : ∀ a, p a → Tries w (f a) q) : Tries w (x >>= f) q :=
  Keeps.bind hx fun
    | .ok a, h => hf a (h a rfl)
    | .error _, _ => Keeps.pure fun _ ok => by cases ok

theorem Tries.lift {x : Py α} {p : α → Prop} (hx : Keeps w x p) : Tries w (liftM x) p :=
  Keeps.bind hx fun _ h => Keeps.pure fun _ ok => by cases ok; exact h

end Py

theorem keeps_timeTime (w : World) : Py.Keeps w timeTime fun _ => True :=
  fun m => ⟨_, _, timeTime_run w m, ⟨rfl, rfl, rfl⟩, trivial⟩

/-- A database call in a `try` block returns the reply to the call. --/
theorem tries_dbTry (w : World) (c : DbCall) : Py.Tries w (dbTry c) fun reply => ∃ i, reply = w.db i c :=
  fun m => ⟨_, { m with reads.db := m.reads.db + 1 }, rfl, ⟨rfl, rfl, rfl⟩, fun reply ok => by
    split at ok <;> cases ok
    exact ⟨_, rfl⟩⟩

theorem tries_simpleBlock (w : World) (query : List Char) : Py.Tries w (simpleBlock query) fun _ => True :=
  .bind (tries_dbTry w _) fun _ _ => .bind (tries_dbTry w _) fun _ _ =>
    .bind (tries_dbTry w _) fun _ _ => .pure trivial

theorem tries_detailedBlock (w : World) (query : List Char) : Py.Tries w (detailedBlock query) fun _ => True :=
  .bind (.lift (keeps_timeTime w)) fun _ _ => .bind (tries_dbTry w _) fun _ _ =>
    .bind (.lift (keeps_timeTime w)) fun _ _ => .bind (.lift (keeps_timeTime w)) fun _ _ =>
    .bind (tries_dbTry w _) fun _ _ => .bind (.lift (keeps_timeTime w)) fun _ _ =>
    .bind (.lift (keeps_timeTime w)) fun _ _ => .bind (tries_dbTry w _) fun _ _ =>
    .bind (.lift (keeps_timeTime w)) fun _ _ => .bind (.lift (keeps_timeTime w)) fun _ _ =>
    .bind (.lift (keeps_timeTime w)) fun _ _ => .pure trivial

/-- The rows of the EXPLAIN block are those of a `fetchall()` reply. --/
theorem tries_explainBlock (w : World) (explainSql : List Char) :
    Py.Tries w (explainBlock explainSql) fun rows => ∃ i, rows = (w.db i .fetchall).rows :=
  .bind (tries_dbTry w _) fun _ _ => .bind (tries_dbTry w _) fun _ _ =>
    .bind (tries_dbTry w _) fun _ ⟨i, fetched⟩ => .pure ⟨i, by rw [fetched]⟩

/-! ### Connecting -/

section TryBlocks

variable {α β : Type} (w : World) (m : Machine)

theorem tryLift_run (x : Py α) (f : α → ExceptT String Py β) :
    ((liftM x >>= f : ExceptT String Py β).run).run w m = (x.run w m).bind fun a m' => (f a).run.run w m' := by
  show (((x.run w m).bind fun a m' => (pure (Except.ok a) : Py _).run w m').bind _) = _
  cases x.run w m <;> rfl

theorem tryPure_run (a : α) (f : α → ExceptT String Py β) :
    ((pure a >>= f : ExceptT String Py β).run).run w m = (f a).run.run w m := rfl

theorem tryDb_run (c : DbCall) (f : DbReply → ExceptT String Py β) :
    ((dbTry c >>= f).run).run w m =
      match (w.db m.reads.db c).error with
      | some e => .ok (.error e) { m with reads.db := m.reads.db + 1 }
      | none => (f (w.db m.reads.db c)).run.run w { m with reads.db := m.reads.db + 1 } := by
  simp only [dbTry, ExceptT.run_bind, ExceptT.run_mk, Py.run_bind, dbCall_run, Outcome.bind_ok, Py.run_pure]
  cases (w.db m.reads.db c).error <;> rfl

/-- `connect()` always returns; it changes no attribute but `self.connection`, which it sets when it returns
    `True`. --/
theorem connect_spec : ∃ ok dt m', connect.run w m = .ok (ok, dt) m' ∧ m'.reads.now = m.reads.now ∧
    m'.printed = m.printed ∧ m'.self = { m.self with connected := m'.self.connected } ∧
    (ok = true → m'.self.connected = true) ∧ (ok = false → dt = 0) := by
  simp only [connect, connectBlock, Py.run_bind, tryLift_run, tryDb_run, timeTime_run, Outcome.bind_ok,
    modifySelf_run, getSelf_run]
  repeat' split
  all_goals simp only [tryLift_run, tryDb_run, tryPure_run, timeTime_run, Outcome.bind_ok]
  repeat' split
  all_goals exact ⟨_, _, _, rfl, rfl, rfl, rfl, by simp, by simp⟩

end TryBlocks

/-! ### One query -/

/-- A record as a query path builds it on a connected executor: named `queryName`, with status `success` or
    `error`, a float execution time, and the timestamp of wall clock reading `k`. --/
structure Logged (w : World) (queryName : String) (k : Nat) (rec : Dict) : Prop where
  name : rec.get? "query_name" = some (.str queryName)
  status : rec.get? "status" = some (.str "success") ∨ rec.get? "status" = some (.str "error")
  time : ∃ x, rec.get? "execution_time" = some (.float x)
  stamp : rec.get? "timestamp" = some (.str ⟨(w.now k).isoformat⟩)

/-- On a connected executor, `x` returns a record for `queryName` stamped with the next wall clock reading, and
    changes nothing else but the clock and database readings. --/
def Py.Records (w : World) (x : Py Dict) (queryName : String) : Prop :=
  ∀ m, m.self.connected = true → ∃ rec m', x.run w m = .ok rec m' ∧ Logged w queryName m.reads.now rec ∧
    m'.self = m.self ∧ m'.reads.now = m.reads.now + 1 ∧ m'.printed = m.printed

theorem logged_errorRecord (w : World) (queryName environment : String) (elapsed : ℚ) (e : String) (k : Nat) :
    Logged w queryName k (errorRecord queryName environment elapsed e (w.now k)) := by
  constructor <;> simp [errorRecord, Dict.get?, List.lookup_cons]

theorem records_executeQuerySimple (w : World) (query : List Char) (queryName : String) :
    (executeQuerySimple query queryName).Records w queryName := by
  intro m conn
  obtain ⟨res, m₁, run₁, ⟨fself, fnow, fprinted⟩, -⟩ :=
    tries_simpleBlock w query { m with reads.time := m.reads.time + 1 }
  simp only [executeQuerySimple, Py.run_bind, getSelf_run, conn, Bool.not_true, Bool.false_eq_true, if_false,
    Py.run_pure, timeTime_run, run₁, Outcome.bind_ok, datetimeNow_run]
  cases res with
  | ok v =>
    refine ⟨_, _, rfl, ?_, fself, congrArg (· + 1) fnow, fprinted⟩
    constructor <;> simp [Dict.get?, List.lookup_cons, fnow]
  | error e =>
    exact ⟨_, _, rfl, fnow ▸ logged_errorRecord w _ _ _ e _, fself, congrArg (· + 1) fnow, fprinted⟩

theorem records_executeQueryWithDetailedTiming (w : World) (query : List Char) (queryName : String) :
    (executeQueryWithDetailedTiming query queryName).Records w queryName := by
  intro m conn
  obtain ⟨res, m₁, run₁, ⟨fself, fnow, fprinted⟩, -⟩ :=
    tries_detailedBlock w query { m with reads.time := m.reads.time + 1 }
  simp only [executeQueryWithDetailedTiming, Py.run_bind, getSelf_run, conn, Bool.not_true, Bool.false_eq_true,
    if_false, Py.run_pure, timeTime_run, run₁, Outcome.bind_ok, datetimeNow_run]
  cases res with
  | ok v =>
    refine ⟨_, _, rfl, ?_, fself, congrArg (· + 1) fnow, fprinted⟩
    constructor <;> simp [Dict.get?, List.lookup_cons, fnow]
  | error e =>
    exact ⟨_, _, rfl, fnow ▸ logged_errorRecord w _ _ _ e _, fself, congrArg (· + 1) fnow, fprinted⟩

/-- `summarize_plan` returns a dict, whose `root` (or `{}`) is a dict. --/
theorem summarizePlan_dict (v : Json) :
    ∃ kvs, summarizePlan v = .obj kvs ∧ ∃ root, Dict.getD kvs "root" (.obj []) = .obj root := by
  unfold summarizePlan
  cases h : summarizePlanTry v with
  | error e => exact ⟨_, rfl, [], by simp [Dict.getD, Dict.get?, List.lookup_cons]⟩
  | ok s =>
    simp only [summarizePlanTry, bind, Except.bind] at h
    repeat' split at h
    all_goals cases h
    exact ⟨_, rfl, _, by simp [Dict.getD, Dict.get?, List.lookup_cons]; rfl⟩

/-- Every row that `fetchall()` returns has a first column, as every row of EXPLAIN output does. --/
def World.HasColumns (w : World) : Prop := ∀ i, ∀ row ∈ (w.db i .fetchall).rows, row ≠ []

/-- On a connected executor, `get_explain_analyze_json` returns an `error` entry, or a `plan_summary` that
    `summarize_plan` built, when EXPLAIN rows have a column. --/
theorem getExplainAnalyzeJson_spec {w : World} (columns : w.HasColumns) (cm : CaseMap) (query : List Char)
    (m : Machine) (conn : m.self.connected = true) :
    ∃ out m', (getExplainAnalyzeJson cm query).run w m = .ok out m' ∧ m.Frame m' ∧
      ((∃ e, out.get? "error" = some e) ∨
        out.get? "error" = none ∧ ∃ planJson, out.getD "plan_summary" (.obj []) = summarizePlan planJson) := by
  obtain ⟨res, m₁, run₁, frame, rows⟩ := tries_explainBlock w (buildExplainSql cm m.self.explainOptions query) m
  simp only [getExplainAnalyzeJson, Py.run_bind, getSelf_run, conn, Bool.not_true, Bool.false_eq_true, if_false,
    Py.run_pure, run₁, Outcome.bind_ok]
  rcases res with e | _ | ⟨_ | ⟨planJson, _⟩, _⟩
  · exact ⟨_, _, rfl, frame, .inl ⟨_, rfl⟩⟩
  · exact ⟨_, _, rfl, frame, .inl ⟨_, rfl⟩⟩
  · obtain ⟨i, hi⟩ := rows _ rfl
    exact absurd rfl (columns i [] (hi ▸ List.mem_cons_self _ _))
  · refine ⟨_, _, rfl, frame, .inr ?_⟩
    split <;> simp [Dict.getD, Dict.get?, List.lookup_cons]

theorem records_executeQueryWithExplain {w : World} (columns : w.HasColumns) (cm : CaseMap) (query : List Char)
    (queryName : String) : (executeQueryWithExplain cm query queryName).Records w queryName := by
  intro m conn
  obtain ⟨out, m₁, run₁, ⟨fself, fnow, fprinted⟩, post⟩ :=
    getExplainAnalyzeJson_spec columns cm query { m with reads.time := m.reads.time + 1 } conn
  simp only [executeQueryWithExplain, Py.run_bind, getSelf_run, conn, Bool.not_true, Bool.false_eq_true,
    if_false, Py.run_pure, timeTime_run, run₁, Outcome.bind_ok]
  rcases post with ⟨e, error⟩ | ⟨noError, planJson, summary⟩
  · simp only [error, Py.run_pure, datetimeNow_run, Outcome.bind_ok]
    refine ⟨_, _, rfl, ?_, fself, congrArg (· + 1) fnow, fprinted⟩
    constructor <;> simp [Dict.get?, List.lookup_cons, fnow]
  · obtain ⟨kvs, dict, root, rootDict⟩ := summarizePlan_dict planJson
    simp only [noError, summary, dict, Json.asDict, liftExcept, Py.run_bind, Py.run_pure, datetimeNow_run,
      rootDict, Outcome.bind_ok]
    refine ⟨_, _, rfl, ?_, fself, congrArg (· + 1) fnow, fprinted⟩
    split <;> constructor <;> simp [Dict.get?, List.lookup_cons, fnow]

theorem records_executeQuery {w : World} {runExplain : Bool} (columns : runExplain = true → w.HasColumns)
    (cm : CaseMap) (detailedTiming : Bool) (query : List Char) (queryName : String) :
    (executeQuery cm detailedTiming runExplain query queryName).Records w queryName := by
  unfold executeQuery
  split
  · exact records_executeQueryWithExplain (columns ‹_›) cm query queryName
  · split
    · exact records_executeQueryWithDetailedTiming w query queryName
    · exact records_executeQuerySimple w query queryName

/-! ### Rounds -/

/-- `recs` are records for `names` in order, stamped with the wall clock readings from the `k`-th on. --/
def LoggedFrom (w : World) : Nat → List String → List Dict → Prop
  | _, [], [] => True
  | k, n :: ns, r :: rs => Logged w n k r ∧ LoggedFrom w (k + 1) ns rs
  | _, _, _ => False

theorem LoggedFrom.append {w : World} {rs' : List Dict} {names' : List String} :
    ∀ {k : Nat} {names : List String} {rs : List Dict}, LoggedFrom w k names rs →
      LoggedFrom w (k + names.length) names' rs' → LoggedFrom w k (names ++ names') (rs ++ rs')
  | _, [], [], _, h' => by simpa using h'
  | _, _ :: _, _ :: _, ⟨head, tail⟩, h' =>
    ⟨head, tail.append (by simpa [Nat.add_assoc, Nat.add_comm 1] using h')⟩

theorem LoggedFrom.length_eq {w : World} : ∀ {k : Nat} {names : List String} {rs : List Dict},
    LoggedFrom w k names rs → rs.length = names.length
  | _, [], [], _ => rfl
  | _, _ :: _, _ :: _, ⟨_, tail⟩ => congrArg (· + 1) tail.length_eq

/-- Round `r` appends a record for each file, in order. --/
theorem runRound_spec {w : World} {runExplain : Bool} (columns : runExplain = true → w.HasColumns)
    (cm : CaseMap) (detailedTiming : Bool) (r : Nat) (files : List SqlFile) (m : Machine)
    (conn : m.self.connected = true) :
    ∃ recs m', (runRound cm detailedTiming runExplain r files).run w m = .ok () m' ∧
      LoggedFrom w m.reads.now (files.map fun s => roundName s.filename r) recs ∧
      m'.self = { m.self with results := m.self.results ++ recs } ∧
      m'.reads.now = m.reads.now + files.length ∧ m'.printed = m.printed := by
  induction files generalizing m with
  | nil => exact ⟨[], m, rfl, trivial, by simp, rfl, rfl⟩
  | cons s files ih =>
    obtain ⟨rec, m₁, run₁, logged, self₁, now₁, printed₁⟩ :=
      records_executeQuery columns cm detailedTiming s.content (roundName s.filename r) m conn
    obtain ⟨recs, m₂, run₂, logged₂, self₂, now₂, printed₂⟩ :=
      ih { m₁ with self := { m₁.self with results := m₁.self.results ++ [rec] } } (by simpa [self₁] using conn)
    refine ⟨rec :: recs, m₂, ?_, ⟨logged, by simpa [now₁] using logged₂⟩, ?_, ?_, ?_⟩
    · simp only [runRound, Py.run_bind, run₁, Outcome.bind_ok, modifySelf_run, run₂]
    · simp [self₂, self₁]
    · simp [now₂, now₁, Nat.add_assoc, Nat.add_comm 1]
    · simp [printed₂, printed₁]

/-! ### Counting a round -/

/-- `f"_round{r}" in name`. --/
def inRoundName (r : Nat) (name : String) : Bool := isSubstring ("_round" ++ toString r).toList name.toList

theorem inRound_of_logged {w : World} {n : String} {k : Nat} {x : Dict} (h : Logged w n k x) (status : String)
    (r : Nat) : inRound status r x = .ok ((x.get "status").eqStr status && inRoundName r n) := by
  have current : x.getItem "status" = .ok (x.get "status") := by
    rcases h.status with st | st <;> simp [Dict.getItem, Dict.get, st]
  have name : x.getItem "query_name" = .ok (.str n) := by simp [Dict.getItem, h.name]
  simp only [inRound, current, name, bind, Except.bind]
  cases (x.get "status").eqStr status <;> rfl

/-- The success and error counts of round `r` over logged records add up to the records whose name contains
    `_round{r}`, of any round. --/
theorem count_success_add_error {w : World} (r : Nat) : ∀ {k : Nat} {names : List String} {recs : List Dict},
    LoggedFrom w k names recs → ∃ a b, countWhere (inRound "success" r) recs = .ok a ∧
      countWhere (inRound "error" r) recs = .ok b ∧ a + b = names.countP (inRoundName r)
  | _, [], [], _ => ⟨0, 0, rfl, rfl, rfl⟩
  | _, n :: names, x :: recs, ⟨head, tail⟩ => by
    obtain ⟨a, b, ha, hb, sum⟩ := count_success_add_error r tail
    refine ⟨_, _, by rw [countWhere, inRound_of_logged head, ha]; rfl,
      by rw [countWhere, inRound_of_logged head, hb]; rfl, ?_⟩
    rw [List.countP_cons, ← sum]
    rcases head.status with st | st <;> cases inRoundName r n <;> simp [Dict.get, st, Json.eqStr] <;> omega

/-! ### All rounds -/

/-- The record names of rounds `r`, ..., `r + k - 1`, in order. --/
def roundNames (files : List SqlFile) (r : Nat) : Nat → List String
  | 0 => []
  | k + 1 => files.map (fun s => roundName s.filename r) ++ roundNames files (r + 1) k

/-- `reports` are the reports of rounds `r`, `r + 1`, ... that follow records named `names`: each names its
    round, and its counts add up to the records present at its end whose name contains `_round{r}`. --/
def Counted (files : List SqlFile) : Nat → List String → List RoundReport → Prop
  | _, _, [] => True
  | r, names, rep :: reps =>
    rep.round = r ∧ rep.success + rep.error =
      (names ++ files.map fun s => roundName s.filename r).countP (inRoundName r) ∧
      Counted files (r + 1) (names ++ files.map fun s => roundName s.filename r) reps

section Rounds

variable {w : World} {runExplain : Bool} (columns : runExplain = true → w.HasColumns) (cm : CaseMap)
  (detailedTiming : Bool) (files : List SqlFile)

include columns

/-- One pass of the loop over rounds: it appends the records of round `r`, prints their counts, and goes on. --/
theorem runRounds_succ (r k : Nat) (acc : List ℚ) (m : Machine) (conn : m.self.connected = true) {k₀ : Nat}
    {names : List String} (logged : LoggedFrom w k₀ names m.self.results) (now : k₀ + names.length = m.reads.now) :
    ∃ recs t succ fail m₁,
      LoggedFrom w k₀ (names ++ files.map fun s => roundName s.filename r) (m.self.results ++ recs) ∧
      m₁.self = { m.self with results := m.self.results ++ recs } ∧
      m₁.reads.now = m.reads.now + files.length ∧ m₁.printed = m.printed ++ [⟨r, t, succ, fail⟩] ∧
      succ + fail = (names ++ files.map fun s => roundName s.filename r).countP (inRoundName r) ∧
      (runRounds cm detailedTiming runExplain files r (k + 1) acc).run w m =
        (runRounds cm detailedTiming runExplain files (r + 1) k (acc ++ [t])).run w m₁ := by
  obtain ⟨recs, m₁, run₁, logged₁, self₁, now₁, printed₁⟩ :=
    runRound_spec columns cm detailedTiming r files { m with reads.time := m.reads.time + 1 } conn
  have all := logged.append (now ▸ logged₁)
  obtain ⟨a, b, ha, hb, sum⟩ := count_success_add_error r all
  let t := w.time m₁.reads.time - w.time m.reads.time
  refine ⟨recs, t, a, b, { m₁ with reads.time := m₁.reads.time + 1, printed := m₁.printed ++ [⟨r, t, a, b⟩] },
    all, by simp [self₁], by simp [now₁], by simp [printed₁], sum, ?_⟩
  simp only [runRounds, Py.run_bind, timeTime_run, run₁, Outcome.bind_ok, getSelf_run, self₁, ha, hb,
    liftExcept, Py.run_pure, printRound_run]

theorem runRounds_spec : ∀ (k r : Nat) (acc : List ℚ) (m : Machine) {k₀ : Nat} {names : List String},
    m.self.connected = true → LoggedFrom w k₀ names m.self.results → k₀ + names.length = m.reads.now →
    ∃ recs times reports m', (runRounds cm detailedTiming runExplain files r k acc).run w m = .ok (acc ++ times) m' ∧
      times.length = k ∧ LoggedFrom w k₀ (names ++ roundNames files r k) (m.self.results ++ recs) ∧
      m'.self = { m.self with results := m.self.results ++ recs } ∧ m'.printed = m.printed ++ reports ∧
      reports.length = k ∧ Counted files r names reports ∧ m'.reads.now = m.reads.now + recs.length
  | 0, r, acc, m, _, _, _, logged, _ =>
    ⟨[], [], [], m, by simp [runRounds], rfl, by simpa [roundNames] using logged, by simp, by simp, rfl, trivial,
      rfl⟩
  | k + 1, r, acc, m, k₀, names, conn, logged, now => by
    obtain ⟨recs, t, succ, fail, m₁, logged₁, self₁, now₁, printed₁, sum, step⟩ :=
      runRounds_succ columns cm detailedTiming files r k acc m conn logged now
    have logged₂ : LoggedFrom w k₀ (names ++ files.map fun s => roundName s.filename r) m₁.self.results := by
      simpa [self₁] using logged₁
    have now₂ : k₀ + (names ++ files.map fun s => roundName s.filename r).length = m₁.reads.now := by
      simp [now₁, ← now, Nat.add_assoc]
    obtain ⟨recs', times, reports, m', run', length', logged', self', printed', count', counted', now'⟩ :=
      runRounds_spec k (r + 1) (acc ++ [t]) m₁ (by simp [self₁, conn]) logged₂ now₂
    refine ⟨recs ++ recs', t :: times, ⟨r, t, succ, fail⟩ :: reports, m', by simp [step, run'], by simp [length'],
      ?_, by simp [self', self₁], by simp [printed', printed₁], by simp [count'], ⟨rfl, sum, counted'⟩, ?_⟩
    · simpa [roundNames, self₁] using logged'
    · have count := logged₁.length_eq
      have count₀ := logged.length_eq
      simp only [List.length_append, List.length_map] at count
      simp only [now', now₁, List.length_append]
      omega

end Rounds

/-! ### Whole runs -/

/-- After a successful `connect()` on an executor without results, `execute_all_queries` with `N ≥ 1` rounds
    returns normally. It leaves the records of rounds `1..N` in order, `N` round times and `N` printed round
    reports, and changes no other attribute. --/
theorem executeAllQueries_spec {w : World} {runExplain : Bool} (columns : runExplain = true → w.HasColumns)
    (cm : CaseMap) (detailedTiming : Bool) {N : Nat} (hN : 1 ≤ N) (m : Machine) (empty : m.self.results = [])
    {dt : ℚ} {m₁ : Machine} (connected : connect.run w m = .ok (true, dt) m₁) :
    ∃ recs times reports m', (executeAllQueries cm N detailedTiming runExplain).run w m = .ok () m' ∧
      LoggedFrom w m.reads.now (roundNames (loadSqlFiles w.sqlDir) 1 N) recs ∧ times.length = N ∧
      m'.self = { m.self with connected := true, results := recs, roundTimes := times, connectTime := dt } ∧
      m'.printed = m.printed ++ reports ∧ reports.length = N ∧ Counted (loadSqlFiles w.sqlDir) 1 [] reports ∧
      m'.reads.now = m.reads.now + recs.length := by
  obtain ⟨ok, dt', m₁', run₁, now₁, printed₁, self₁, conn₁, -⟩ := connect_spec w m
  obtain ⟨pair, rfl⟩ := Outcome.ok.inj (connected.symm.trans run₁)
  obtain ⟨rfl, rfl⟩ := Prod.mk.inj pair
  have conn : m₁.self.connected = true := conn₁ rfl
  replace self₁ : m₁.self = { m.self with connected := true } := by rw [self₁, conn]
  let m₂ := { m₁ with self := { m₁.self with connectTime := dt } }
  have logged : LoggedFrom w m.reads.now [] m₂.self.results := by simp [m₂, self₁, empty, LoggedFrom]
  obtain ⟨recs, times, reports, m', run', length', logged', self', printed', count', counted', now'⟩ :=
    runRounds_spec columns cm detailedTiming (loadSqlFiles w.sqlDir) N 1 [] m₂ (by simpa [m₂] using conn) logged
      (by simp [m₂, now₁])
  have notZero : ((N : Int) = 0) = False := by simp; omega
  have notEmpty : times.isEmpty = false := by
    rw [List.isEmpty_eq_false_iff_exists_mem]
    exact List.exists_mem_of_length_pos (by omega)
  refine ⟨recs, times, reports, { m' with self := { m'.self with roundTimes := times } }, ?_,
    by simpa [m₂, self₁, empty] using logged', length', ?_,
    by simp [printed', m₂, printed₁], count', counted', by simp [now', m₂, now₁]⟩
  · simp only [executeAllQueries, Py.run_bind, connected, Outcome.bind_ok, Bool.not_true, Bool.false_eq_true,
      if_false, Py.run_pure, modifySelf_run, sqlDir_run, Int.toNat_ofNat, run', notZero, List.nil_append,
      notEmpty]
    rfl
  · simp [self', m₂, self₁, conn, empty]

/-- A query file whose name holds `_round2` has its round-1 record counted again after round 2: with that one
    file and two rounds, the success and error counts of round 2 add up to 2, whatever the database replies. --/
theorem executeAllQueries_round_two_counts_two {w : World} (dir : w.sqlDir = [("x_round2.sql", some "SELECT 1")])
    {runExplain : Bool} (columns : runExplain = true → w.HasColumns) (cm : CaseMap) (detailedTiming : Bool)
    (m : Machine) (empty : m.self.results = []) (connected : ∃ dt m₁, connect.run w m = .ok (true, dt) m₁) :
    (loadSqlFiles w.sqlDir).length = 1 ∧ ∃ m' t₁ t₂ s₁ f₁ s₂ f₂,
      (executeAllQueries cm 2 detailedTiming runExplain).run w m = .ok () m' ∧
      m'.printed = m.printed ++ [⟨1, t₁, s₁, f₁⟩, ⟨2, t₂, s₂, f₂⟩] ∧ s₂ + f₂ = 2 := by
  obtain ⟨dt, m₁, connected⟩ := connected
  have files : loadSqlFiles w.sqlDir = [⟨"x_round2.sql", strip "SELECT 1".toList⟩] := by rw [dir]; rfl
  obtain ⟨recs, times, reports, m', run, -, -, -, printed, length, counted, -⟩ :=
    executeAllQueries_spec columns cm detailedTiming (by decide : 1 ≤ 2) m empty connected
  rw [files] at counted
  match reports, length, counted with
  | [⟨_, t₁, s₁, f₁⟩, ⟨_, t₂, s₂, f₂⟩], _, ⟨rfl, _, rfl, sum, _⟩ =>
    exact ⟨by rw [files]; rfl, m', t₁, t₂, s₁, f₁, s₂, f₂, run, printed, sum⟩

/-- The first wall clock reading of the sample world. --/
def epoch : DateTime := ⟨1970, 1, 1, 0, 0, 0, 0, by decide, by decide, by decide, by decide, by decide, by decide,
  by decide⟩

/-- A world whose clocks stand still, whose database answers every call without rows, and whose query
    directory holds one file, `x_round2.sql`. --/
def overlapWorld : World where
  time _ := 0
  now _ := epoch
  db _ _ := ⟨none, [], none⟩
  sqlDir := [("x_round2.sql", some "SELECT 1")]

/-- A fresh executor with nothing read yet. --/
def freshMachine : Machine := ⟨Executor.init "bare_metal" false [] none, ⟨0, 0, 0⟩, []⟩

theorem executeAllQueries_round_two_counts_two_overlapWorld :
    overlapWorld.sqlDir = [("x_round2.sql", some "SELECT 1")] ∧ (false = true → overlapWorld.HasColumns) ∧
      freshMachine.self.results = [] ∧ (∃ dt m₁, connect.run overlapWorld freshMachine = .ok (true, dt) m₁) ∧
      (loadSqlFiles overlapWorld.sqlDir).length = 1 ∧ ∃ m' t₁ t₂ s₁ f₁ s₂ f₂,
        (executeAllQueries CaseMap.ascii 2 false false).run overlapWorld freshMachine = .ok () m' ∧
        m'.printed = freshMachine.printed ++ [⟨1, t₁, s₁, f₁⟩, ⟨2, t₂, s₂, f₂⟩] ∧ s₂ + f₂ = 2 :=
  have columns : false = true → overlapWorld.HasColumns := fun h => by cases h
  have connected : ∃ dt m₁, connect.run overlapWorld freshMachine = .ok (true, dt) m₁ := ⟨_, _, rfl⟩
  ⟨rfl, columns, rfl, connected,
    executeAllQueries_round_two_counts_two rfl columns CaseMap.ascii false freshMachine rfl connected⟩

end TeeSelector
