import TeeSelector.Theorems.Scan

/-! The cache that `generate_sql_speedup_hash_cache.py` writes. Since `strip_explain_prefix` never raises, `main`
    raises exactly when the SQL path of a row with a query does not hold readable text (it is missing, or opening
    or decoding it fails), and then writes nothing. Otherwise it writes the header and a line for each row with a
    query, in order, with the `int4` that PostgreSQL's `hash_bytes` gives for the row's normalized SQL and the
    row's scenario. -/

namespace TeeSelector

/-- A row that `main` keeps: its stripped `query` field is not empty. --/
def CacheRow.queried (row : CacheRow) : Bool := !(strip (row.query.getD [])).isEmpty

/-- The entry holds text that `read()` returns. --/
def PathEntry.readable : PathEntry → Bool
  | .text _ => true
  | _ => false

/-- The path of the SQL file of a row. --/
def CacheRow.sqlPath (queryDir : List Char) (row : CacheRow) : List Char :=
  joinPath queryDir (queryFile (strip (row.query.getD [])))

/-- The entry of a row: PostgreSQL's `hash_bytes` of its normalized SQL as an `int4`, and its scenario. --/
def CacheEntry (cm : CaseMap) (options : List String) (queryDir : List Char)
    (files : List Char → PathEntry) (row : CacheRow) (entry : Int × List Char) : Prop :=
  ∃ sql norm, files (row.sqlPath queryDir) = .text sql ∧ normalizeSql cm options sql = some norm ∧
    entry = ((Hash.Pg.hashBytes norm).toInt, mapScenario cm (row.bestCombo.getD []))

theorem toInt_int4 (x : BitVec 32) : -2147483648 ≤ x.toInt ∧ x.toInt < 2147483648 := by
  have bound := x.isLt
  rw [BitVec.toInt_eq_toNat_cond]
  split_ifs <;> omega

section
variable (cm : CaseMap) (options : List String) (queryDir : List Char) (files : List Char → PathEntry)

/-- The fingerprint of every text is the `int4` of the hash of its normalized form. --/
theorem fingerprint_entry (sql : List Char) :
    ∃ norm, normalizeSql cm options sql = some norm ∧
      fingerprint cm options sql = some (Hash.Pg.hashBytes norm).toInt := by
  obtain ⟨start, h⟩ := Option.isSome_iff_exists.mp (stripExplainPrefix_isSome options sql)
  refine ⟨_, by rw [normalizeSql, h]; rfl, ?_⟩
  simp only [fingerprint, Hash.signed_hashBytes, normalizeSql, h, Option.map_some']

theorem cacheEntries_of_ok : ∀ {rows : List CacheRow} {entries : List (Int × List Char)},
    cacheRows cm options queryDir files rows = .ok entries →
      List.Forall₂ (CacheEntry cm options queryDir files) (rows.filter CacheRow.queried) entries
  | [], entries, h => by cases h; exact .nil
  | row :: rows, entries, h => by
    simp only [cacheRows] at h
    split_ifs at h with blank
    · rw [List.filter_cons_of_neg (by simp [CacheRow.queried, blank])]
      exact cacheEntries_of_ok h
    · rw [List.filter_cons_of_pos (by simp [CacheRow.queried, blank])]
      split at h
      · cases h
      · cases h
      next sql found =>
        obtain ⟨norm, hn, hf⟩ := fingerprint_entry cm options sql
        simp only [hf, bind, Except.bind] at h
        split at h
        · cases h
        next rest hr =>
          cases h
          exact .cons ⟨sql, norm, found, hn, rfl⟩ (cacheEntries_of_ok hr)

theorem unreadable_of_error : ∀ {rows : List CacheRow} {e : String},
    cacheRows cm options queryDir files rows = .error e →
      ∃ row ∈ rows, row.queried = true ∧ (files (row.sqlPath queryDir)).readable = false
  | [], e, h => by cases h
  | row :: rows, e, h => by
    simp only [cacheRows] at h
    split_ifs at h with blank
    · obtain ⟨r, m, q, bad⟩ := unreadable_of_error h
      exact ⟨r, List.mem_cons_of_mem _ m, q, bad⟩
    have here : row.queried = true := by simp [CacheRow.queried, blank]
    split at h
    next missing => exact ⟨row, List.mem_cons_self _ _, here, by rw [CacheRow.sqlPath, missing]; rfl⟩
    next e' refused => exact ⟨row, List.mem_cons_self _ _, here, by rw [CacheRow.sqlPath, refused]; rfl⟩
    next sql found =>
      obtain ⟨norm, -, hf⟩ := fingerprint_entry cm options sql
      simp only [hf, bind, Except.bind] at h
      split at h
      next e' hr =>
        obtain ⟨r, m, q, bad⟩ := unreadable_of_error hr
        exact ⟨r, List.mem_cons_of_mem _ m, q, bad⟩
      · cases h

theorem int4_of_entries {rows : List CacheRow} {entries : List (Int × List Char)}
    (h : List.Forall₂ (CacheEntry cm options queryDir files) rows entries) :
    ∀ entry ∈ entries, -2147483648 ≤ entry.1 ∧ entry.1 < 2147483648 := by
  induction h with
  | nil => simp
  | cons entry _ ih =>
    obtain ⟨sql, norm, -, -, rfl⟩ := entry
    rintro e (_ | ⟨_, m⟩)
    · exact toInt_int4 _
    · exact ih e m

theorem readable_of_entries {rows : List CacheRow} {entries : List (Int × List Char)}
    (h : List.Forall₂ (CacheEntry cm options queryDir files) rows entries) :
    ∀ row ∈ rows, (files (row.sqlPath queryDir)).readable = true := by
  induction h with
  | nil => simp
  | cons entry _ ih =>
    obtain ⟨sql, norm, found, -, -⟩ := entry
    rintro r (_ | ⟨_, m⟩)
    · rw [found]; rfl
    · exact ih r m

/-- For every source CSV, every file system and every iteration order of the option set, `main` writes the
    cache exactly when the SQL path of each row with a query holds text it can read: it raises when a path is
    missing, and when opening or decoding the file fails. It then writes the header and a line per such row, in
    order, with the `int4` that PostgreSQL's `hash_bytes` gives for its normalized SQL, and its scenario. --/
theorem hashCache_spec (rows : List CacheRow) :
    ((∃ text, hashCache cm options queryDir files rows = .ok text) ↔
      ∀ row ∈ rows, row.queried = true → (files (row.sqlPath queryDir)).readable = true) ∧
    ∀ text, hashCache cm options queryDir files rows = .ok text →
      ∃ entries, text = "hash,scenario\n".toList ++ entries.flatMap cacheLine ∧
        List.Forall₂ (CacheEntry cm options queryDir files) (rows.filter CacheRow.queried) entries ∧
        ∀ entry ∈ entries, -2147483648 ≤ entry.1 ∧ entry.1 < 2147483648 := by
  simp only [hashCache, bind, Except.bind]
  split
  next e hr =>
    obtain ⟨row, m, q, bad⟩ := unreadable_of_error cm options queryDir files hr
    refine ⟨⟨fun ⟨_, h⟩ => (by cases h), fun readable => ?_⟩, fun _ h => by cases h⟩
    simpa [bad] using readable row m q
  next entries hr =>
    have forall₂ := cacheEntries_of_ok cm options queryDir files hr
    have readable := readable_of_entries cm options queryDir files forall₂
    refine ⟨⟨fun _ row m q => readable row (List.mem_filter.mpr ⟨m, q⟩), fun _ => ⟨_, rfl⟩⟩, fun text h => ?_⟩
    cases h
    exact ⟨entries, rfl, forall₂, int4_of_entries cm options queryDir files forall₂⟩

end

end TeeSelector
