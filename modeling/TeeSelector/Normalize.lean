import TeeSelector.Python
import TeeSelector.Hash

/-! Query fingerprints, from `generate_sql_speedup_hash_cache.py`: `strip_explain_prefix` drops a leading
    `EXPLAIN` clause, `normalize_sql` keeps the lower-cased non-space characters of what follows, and
    `map_scenario` canonicalises a best-combination label.

    The scanner is run on `rest = sql[p:]`, the text from its position on: a Python read `sql[p + j]` is
    `rest[j]`, the test `p < n` is `rest ≠ []` and a return of `sql[p:]` returns `rest`. A set has no fixed
    iteration order, so the order of `options` is a parameter. -/

namespace TeeSelector

/-- The bare EXPLAIN options of `strip_explain_prefix`. --/
def explainOptions : List String :=
  ["analyze", "verbose", "costs", "buffers", "timing", "summary", "settings", "wal"]

/-- The statement keywords of `strip_explain_prefix`, in their order. --/
def keywords : List String := ["select", "with", "insert", "update", "delete"]

/-- `sql[p:p + len(w)].lower() == w` on `rest = sql[p:]`, for the lower-case ASCII words above. Outside
    ASCII, Python's `lower` yields an ASCII letter only for U+212A (`k`, in none of the words) and U+0130
    (`i` with U+0307), so the test holds exactly when the slice spells `w` in ASCII letters of either case. --/
def sliceIs (rest : List Char) (w : String) : Bool :=
  (rest.take w.length).map Char.toLower == w.toList

/-- The depth loop `while p < n and depth > 0:` after an opening bracket, counting `(` and `)`. --/
def skipParens : Nat → List Char → List Char
  | 0, rest => rest
  | _ + 1, [] => []
  | depth + 1, c :: rest =>
    if c = '(' then skipParens (depth + 2) rest
    else if c = ')' then skipParens depth rest
    else skipParens (depth + 1) rest

/-- After a matched option: `p = end`, then the loops skipping non-space and then space characters. --/
def afterOption (rest : List Char) (opt : String) : List Char :=
  ((rest.drop opt.length).dropWhile (!isSpace ·)).dropWhile isSpace

/-- The loop `for opt in options:` at `rest`: `some (some rest')` when an option matched (the scan goes on
    at `rest'`), `some none` when none did (the `break` that follows), and `none` when the read `sql[end]`
    raised `IndexError`. --/
def matchOption (rest : List Char) : List String → Option (Option (List Char))
  | [] => some none
  | opt :: opts =>
    if sliceIs rest opt then
      if opt.length == rest.length then some (some (afterOption rest opt))
      else match rest[opt.length]? with
        | none => none
        | some c => if isSpace c then some (some (afterOption rest opt)) else matchOption rest opts
    else matchOption rest opts

theorem length_afterOption_lt {rest : List Char} {opt : String} (ne : rest ≠ [])
    (hit : opt.length = rest.length ∨ ∃ c, rest[opt.length]? = some c ∧ isSpace c = true) :
    (afterOption rest opt).length < rest.length := by
  unfold afterOption
  obtain _ | ⟨c, cs⟩ := rest
  · exact absurd rfl ne
  cases h : opt.length with
  | zero =>
    rw [h] at hit
    obtain hit | ⟨d, hd, hs⟩ := hit
    · simp at hit
    · simp only [List.getElem?_cons_zero, Option.some.injEq] at hd
      subst hd
      simp only [List.drop_zero, List.dropWhile_cons, hs, Bool.not_true, Bool.false_eq_true, ite_false,
        ite_true, List.length_cons]
      exact Nat.lt_succ_of_le ((List.dropWhile_suffix _).length_le)
  | succ k =>
    calc _ ≤ ((List.drop (k + 1) (c :: cs)).dropWhile (!isSpace ·)).length := (List.dropWhile_suffix _).length_le
      _ ≤ (List.drop (k + 1) (c :: cs)).length := (List.dropWhile_suffix _).length_le
      _ < (c :: cs).length := by simp; omega

/-- What a matched option leaves: the text after it, the option being followed by the end or by a space. --/
theorem matchOption_some {rest rest' : List Char} {opts : List String} (h : matchOption rest opts = some (some rest')) :
    ∃ opt : String, rest' = afterOption rest opt ∧
      (opt.length = rest.length ∨ ∃ c, rest[opt.length]? = some c ∧ isSpace c = true) := by
  induction opts with
  | nil => simp [matchOption] at h
  | cons opt opts ih =>
    simp only [matchOption] at h
    split at h
    · split at h
      next same =>
        cases h
        exact ⟨opt, rfl, .inl (by simpa using same)⟩
      · split at h
        · cases h
        next c read =>
          split at h
          next space =>
            cases h
            exact ⟨opt, rfl, .inr ⟨c, read, space⟩⟩
          · exact ih h
    · exact ih h

theorem length_lt_of_matchOption {rest rest' : List Char} {opts : List String} (ne : rest ≠ [])
    (h : matchOption rest opts = some (some rest')) : rest'.length < rest.length := by
  obtain ⟨opt, rfl, hit⟩ := matchOption_some h
  exact length_afterOption_lt ne hit

/-- The loop `while p < n:` over the bare options; `none` when it raised. --/
def skipOptions (options : List String) (rest : List Char) : Option (List Char) :=
  match rest with
  | [] => some []
  | c :: cs =>
    match _h : matchOption (c :: cs) options with
    | none => none
    | some none => some (c :: cs)
    | some (some rest') => skipOptions options rest'
termination_by rest.length
decreasing_by exact length_lt_of_matchOption (List.cons_ne_nil _ _) _h

/-- The loop `while p < n:` looking for a statement keyword: `sql[p:]` at the first position where one
    begins, else `sql` itself. --/
def findKeyword (sql : List Char) : List Char → List Char
  | [] => sql
  | c :: rest => if keywords.any (sliceIs (c :: rest)) then c :: rest else findKeyword sql rest

/-- The clause after `explain` and its spaces: a bracketed list, skipped with the spaces after it, or else
    the bare options. --/
def skipClause (options : List String) : List Char → Option (List Char)
  | '(' :: rest => some ((skipParens 1 rest).dropWhile isSpace)
  | rest => skipOptions options rest

/-- `strip_explain_prefix(sql)`, iterating the option set in the order `options`; `none` when it raised. --/
def stripExplainPrefix (options : List String) (sql : List Char) : Option (List Char) :=
  let rest := sql.dropWhile isSpace
  if !sliceIs rest "explain" then some sql
  else (skipClause options ((rest.drop 7).dropWhile isSpace)).map (findKeyword sql)

/-- `s.encode("utf-8")`. --/
def encodeUtf8 (s : List Char) : List UInt8 := (String.mk s).toUTF8.toList

/-- `normalize_sql(sql)`: the characters after the EXPLAIN clause that are not spaces, each lower-cased,
    as UTF-8 bytes. --/
def normalizeSql (cm : CaseMap) (options : List String) (sql : List Char) : Option (List UInt8) :=
  (stripExplainPrefix options sql).map fun start => encodeUtf8 ((start.filter (!isSpace ·)).flatMap cm.lower)

/-- The fingerprint that `main` stores for a query file: `hash_bytes(normalize_sql(sql))` as a signed 32-bit
    integer. --/
def fingerprint (cm : CaseMap) (options : List String) (sql : List Char) : Option Int :=
  (normalizeSql cm options sql).map fun norm =>
    let h := Hash.hashBytes norm
    if Int.land h 0x80000000 != 0 then h - 0x100000000 else h

/-! ### Scenario labels -/

/-- The `mapping` table of `map_scenario`. --/
def scenarioMapping : List (String × String) :=
  [("baseline", "NONE"), ("ce_cm", "CE+CM"), ("ce", "CE"), ("cm", "CM"), ("jn", "JN"), ("ce_jn", "CE+JN"),
    ("cm_jn", "CM+JN"), ("all_three", "ALL"), ("all", "ALL"), ("ce+cm", "CE+CM"), ("ce+jn", "CE+JN"),
    ("cm+jn", "CM+JN"), ("ce+cm+jn", "ALL")]

/-- `map_scenario(best_combo)`. --/
def mapScenario (cm : CaseMap) (bestCombo : List Char) : List Char :=
  if bestCombo.isEmpty then "NONE".toList
  else ((scenarioMapping.lookup ⟨cm.lowerStr (strip bestCombo)⟩).map String.toList).getD
    (cm.upperStr (strip bestCombo))

/-! ### The hash cache -/

/-- The `query` and `best_combo` fields of a row of the source CSV, `none` where the row lacks one. --/
structure CacheRow where
  query : Option (List Char)
  bestCombo : Option (List Char)

/-- `query_file`: the query's name without a trailing `_round1`. --/
def queryFile (query : List Char) : List Char :=
  if "_round1".toList.isSuffixOf query then query.take (query.length - 7) else query

/-- The line `f"{h},{scenario}\n"` of one entry of the cache. --/
def cacheLine (entry : Int × List Char) : List Char :=
  (toString entry.1).toList ++ ',' :: entry.2 ++ ['\n']

/-- What the file system holds at the SQL path of a row. --/
inductive PathEntry where
  /-- `os.path.exists(sql_path)` is false. --/
  | missing
  /-- The path exists, but `open(sql_path, "r", encoding="utf-8")` or `read()` raises with this message: a
      directory, a file that cannot be opened, bytes that are not UTF-8. --/
  | unreadable (error : String)
  /-- The text that `read()` returns in text mode. --/
  | text (content : List Char)

/-- The loop of `main` over the rows of the source CSV: the `(h_signed, scenario)` of each row with a query. The
    SQL of a query is read from the entry that `files` gives for its path. --/
def cacheRows (cm : CaseMap) (options : List String) (queryDir : List Char)
    (files : List Char → PathEntry) : List CacheRow → Except String (List (Int × List Char))
  | [] => .ok []
  | row :: rows =>
    let query := strip (row.query.getD [])
    if query.isEmpty then cacheRows cm options queryDir files rows
    else
      let sqlPath := joinPath queryDir (queryFile query)
      match files sqlPath with
      | .missing => .error ("Missing SQL file for " ++ String.mk query ++ ": " ++ String.mk sqlPath)
      | .unreadable e => .error e
      | .text sql =>
        match fingerprint cm options sql with
        | none => .error "IndexError: string index out of range"
        | some hSigned => do
          let rest ← cacheRows cm options queryDir files rows
          return (hSigned, mapScenario cm (row.bestCombo.getD [])) :: rest

/-- The text `main` writes to `dst` once its checks of `src` and `query_dir` pass: the header and the line of each
    entry. Nothing is written when the loop raises. --/
def hashCache (cm : CaseMap) (options : List String) (queryDir : List Char) (files : List Char → PathEntry)
    (rows : List CacheRow) : Except String (List Char) := do
  let entries ← cacheRows cm options queryDir files rows
  return "hash,scenario\n".toList ++ entries.flatMap cacheLine

end TeeSelector
