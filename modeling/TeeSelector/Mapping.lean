import Mathlib.Data.String.Basic
import TeeSelector.Normalize

/-! The query-to-component mapping: `load_query_names` and `write_mapping` of `map_queries_to_components.py`,
    which read the executor's saved report and write the mapping file, and `normalize_query`,
    `parse_map_line` and `load_current_txt` of `compare_component_similarity.py`, which read it back. -/

namespace TeeSelector

/-! ### Reading the saved report -/

/-- The entry that `load_query_names` keeps for `item`: its timestamp and name, when both are truthy. --/
def keptEntry (item : Json) : Except String (Option (Json × Json)) := do
  let d ← item.asDict
  return if (d.get "query_name").truthy && (d.get "timestamp").truthy then some (d.get "timestamp", d.get "query_name")
    else none

/-- The list comprehension of `load_query_names`: the kept entries of `results`, in order. --/
def keptEntries : List Json → Except String (List (Json × Json))
  | [] => .ok []
  | item :: items => do
    let kept ← keptEntry item
    let rest ← keptEntries items
    return match kept with
      | some entry => entry :: rest
      | none => rest

/-- The sort key `pair[0]` of a kept entry; only str timestamps are compared, any other raises. --/
def sortKey : Json × Json → Except String (String × Json)
  | (.str s, name) => .ok (s, name)
  | (v, _) => .error ("TypeError: '<' not supported between instances of '" ++ v.typeName ++ "' and 'str'")

/-- `load_query_names(json_path)` on the decoded report: the names of the entries that have a name and a
    timestamp, in a stable sort by timestamp, Python's code point order on str. --/
def loadQueryNames (data : Json) : Except String (List Json) := do
  let d ← data.asDict
  let results ← (d.getD "query_results" (.arr [])).iter
  let filtered ← keptEntries results
  let keyed ← filtered.mapM sortKey
  return (keyed.mergeSort fun a b => !decide (b.1 < a.1)).map Prod.snd

/-! ### Writing the mapping -/

/-- The lines `f"{idx}\t{qname}\t{comp}\n"` of `write_mapping`, numbered from `idx`. --/
def mappingLines : Nat → List (String × String) → List Char
  | _, [] => []
  | idx, (qname, comp) :: pairs =>
    (toString idx).toList ++ '\t' :: qname.toList ++ '\t' :: comp.toList ++ '\n' :: mappingLines (idx + 1) pairs

/-- A section of unmatched entries: its heading after a blank line, then `f"# {x}\n"` for each entry; nothing
    when there are none. --/
def unmatchedSection (heading : String) : List String → List Char
  | [] => []
  | xs => ("\n# " ++ heading ++ "\n").toList ++ xs.flatMap fun x => ("# " ++ x ++ "\n").toList

/-- The text `write_mapping(output_path, query_names, components)` leaves in the file. --/
def writeMapping (queryNames components : List String) : List Char :=
  let pairs := queryNames.zip components
  mappingLines 1 pairs ++
    if queryNames.length != components.length then
      unmatchedSection "Unmatched queries (no component)" (queryNames.drop pairs.length) ++
        unmatchedSection "Unmatched components (no query)" (components.drop pairs.length)
    else []

/-- A character of the run `[A-Z+ ]` of `COMPONENT_RE`. --/
def componentChar (c : Char) : Bool := ('A' ≤ c && c ≤ 'Z') || c == '+' || c == ' '

/-- A capture of `COMPONENT_RE = re.compile(r"TEE Adaptive: Auto: ([A-Z+ ]+(?:\(strong\))?)")`: a non-empty run of
    capitals, `+` and spaces, perhaps followed by `(strong)`. --/
def isComponentCapture (s : List Char) : Bool :=
  let body := if "(strong)".toList.isSuffixOf s then s.take (s.length - 8) else s
  !body.isEmpty && body.all componentChar

/-! ### Reading the mapping back -/

/-- Reading in text mode translates `\r\n` and a lone `\r` to `\n`. --/
def universalNewlines : List Char → List Char
  | '\r' :: '\n' :: s => '\n' :: universalNewlines s
  | '\r' :: s => '\n' :: universalNewlines s
  | c :: s => c :: universalNewlines s
  | [] => []

/-- The lines `for line in fh` gives, each with its `\n`; the last one may lack it. --/
def fileLines : List Char → List (List Char)
  | [] => []
  | c :: s =>
    if c = '\n' then [c] :: fileLines s
    else match fileLines s with
      | [] => [[c]]
      | l :: ls => (c :: l) :: ls

/-- `s.split(sep)` for a one-character separator. --/
def splitSep (sep : Char) : List Char → List (List Char)
  | [] => [[]]
  | c :: s =>
    if c = sep then [] :: splitSep sep s
    else match splitSep sep s with
      | [] => [[c]]
      | p :: ps => (c :: p) :: ps

/-- `normalize_query(name)`: stripped, and without a final `_round1`. --/
def normalizeQuery (name : List Char) : List Char :=
  let name := strip name
  if "_round1".toList.isSuffixOf name then name.take (name.length - 7) else name

/-- The text after the first `)` of `s` that no newline precedes: where `\(.*?\)` ends after an opening
    parenthesis. --/
def afterClose : List Char → Option (List Char)
  | [] => none
  | c :: s => if c = ')' then some s else if c = '\n' then none else afterClose s

theorem length_lt_of_afterClose {rest : List Char} : ∀ {s : List Char}, afterClose s = some rest →
    rest.length < s.length
  | [], h => by simp [afterClose] at h
  | c :: s, h => by
    simp only [afterClose] at h
    split_ifs at h with close
    · cases h; simp
    · exact Nat.lt_succ_of_lt (length_lt_of_afterClose h)

/-- `re.sub(r"\(.*?\)", "", s)`: every shortest parenthesized group within a line removed. --/
def removeGroups : List Char → List Char
  | [] => []
  | c :: s =>
    if c = '(' then
      match h : afterClose s with
      | some rest =>
        have : rest.length < s.length + 1 := Nat.lt_succ_of_lt (length_lt_of_afterClose h)
        removeGroups rest
      | none => c :: removeGroups s
    else c :: removeGroups s
termination_by s => s.length

/-- `s.replace(old, new)` for a non-empty `old`: its occurrences replaced from the left. --/
def replaceAll (old new : List Char) : List Char → List Char
  | [] => []
  | c :: s =>
    if h : old ≠ [] ∧ old.isPrefixOf (c :: s) then
      have : 0 < old.length := List.length_pos.mpr h.1
      new ++ replaceAll old new ((c :: s).drop old.length)
    else c :: replaceAll old new s
termination_by s => s.length
decreasing_by
  · simp_wf; omega
  · simp_wf

/-- What `parse_map_line` makes of the component field `comp`: stripped, without parenthesized groups, `Auto`
    and spaces, and upper-cased. --/
def componentKey (cm : CaseMap) (comp : List Char) : List Char :=
  let comp := strip (removeGroups (strip comp))
  let comp := strip (replaceAll "Auto".toList [] (replaceAll "Auto: ".toList [] comp))
  cm.upperStr (replaceAll " ".toList [] comp)

/-- `parse_map_line(line)`: the query and component of a line with at least three tab-separated fields. --/
def parseMapLine (cm : CaseMap) (line : List Char) : Option (List Char × List Char) :=
  match splitSep '\t' (strip line) with
  | _ :: query :: comp :: _ => some (normalizeQuery query, componentKey cm comp)
  | _ => none

/-- `COMP_NORM`. --/
def compNorm : List (String × String) :=
  [("NONE", "none"), ("N", "none"), ("CM", "cm"), ("CE", "ce"), ("JN", "jn"), ("CE+CM", "ce_cm"),
    ("CE+JN", "ce_jn"), ("CM+JN", "cm_jn"), ("ALL", "all_three")]

/-- `COMP_NORM.get(comp, comp.lower())`. --/
def normalizeComponent (cm : CaseMap) (comp : List Char) : String :=
  (compNorm.lookup ⟨comp⟩).getD ⟨cm.lowerStr comp⟩

/-- One pass of the loop of `load_current_txt` over the lines of the file. --/
def loadLine (cm : CaseMap) (mapping : List (String × String)) (line : List Char) : List (String × String) :=
  if (strip line).isEmpty || line.head? == some '#' then mapping
  else match parseMapLine cm line with
    | some (query, comp) => if query.isEmpty then mapping else setItem mapping ⟨query⟩ (normalizeComponent cm comp)
    | none => mapping

/-- `load_current_txt(path)` on the text of the file. --/
def loadCurrentTxt (cm : CaseMap) (text : List Char) : List (String × String) :=
  (fileLines (universalNewlines text)).foldl (loadLine cm) []

/-! ### Reading the log -/

/-- The literal that starts a match of `COMPONENT_RE`. --/
def componentMarker : List Char := "TEE Adaptive: Auto: ".toList

/-- The group of `COMPONENT_RE` at the start of `s`, after the literal, with the text after the match: the longest
    run of `[A-Z+ ]`, which must not be empty, then `(strong)` when it follows. Nothing follows the group in the
    pattern, so the greedy run is never given back. --/
def componentGroup (s : List Char) : Option (List Char × List Char) :=
  let run := s.takeWhile componentChar
  let after := s.drop run.length
  if run.isEmpty then none
  else if "(strong)".toList.isPrefixOf after then some (run ++ "(strong)".toList, after.drop 8)
  else some (run, after)

theorem length_le_of_componentGroup {s g rest : List Char} (h : componentGroup s = some (g, rest)) :
    rest.length ≤ s.length := by
  simp only [componentGroup] at h
  split_ifs at h <;> cases h <;> simp only [List.length_drop] <;> omega

/-- `COMPONENT_RE.findall(text)`: the group of each match, the search going on after a match, and one character
    on where no match starts. --/
def findComponents (s : List Char) : List (List Char) :=
  match s with
  | [] => []
  | c :: cs =>
    if componentMarker.isPrefixOf (c :: cs) then
      match _h : componentGroup ((c :: cs).drop componentMarker.length) with
      | some (group, rest) => group :: findComponents rest
      | none => findComponents cs
    else findComponents cs
termination_by s.length
decreasing_by
  all_goals simp_wf
  · exact Nat.lt_of_le_of_lt (length_le_of_componentGroup _h)
      (List.length_drop _ _ ▸ Nat.sub_lt (Nat.succ_pos _) (by decide))

/-- `extract_components(log_path)` on the text of the log, read in text mode. --/
def extractComponents (text : List Char) : List String :=
  (findComponents (universalNewlines text)).map String.mk

/-! ### Comparing with the best combinations -/

/-- `BIT_MAP`: the (CE, CM, JN) bits of each combination label. --/
def bitMap : List (String × List Nat) :=
  [("none", [0, 0, 0]), ("baseline", [0, 0, 0]), ("ce", [1, 0, 0]), ("cm", [0, 1, 0]), ("jn", [0, 0, 1]),
    ("ce_cm", [1, 1, 0]), ("ce_jn", [1, 0, 1]), ("cm_jn", [0, 1, 1]), ("all_three", [1, 1, 1]),
    ("all", [1, 1, 1]), ("ce+cm", [1, 1, 0]), ("ce+jn", [1, 0, 1]), ("cm+jn", [0, 1, 1]),
    ("ce+cm+jn", [1, 1, 1])]

/-- `BEST_NORM`. --/
def bestNorm : List (String × String) :=
  [("baseline", "baseline"), ("ce", "ce"), ("cm", "cm"), ("jn", "jn"), ("ce_cm", "ce_cm"), ("ce_jn", "ce_jn"),
    ("cm_jn", "cm_jn"), ("all_three", "all_three"), ("all", "all_three"), ("ce+cm", "ce_cm"), ("ce+jn", "ce_jn"),
    ("cm+jn", "cm_jn"), ("ce+cm+jn", "all_three")]

/-- The label `load_best_csv` gives a row's `best_combo`: `(row.get("best_combo") or "").strip().lower()`, then
    `BEST_NORM.get(combo, combo)`. --/
def bestLabel (cm : CaseMap) (bestCombo : Option (List Char)) : String :=
  let combo : String := ⟨cm.lowerStr (strip (bestCombo.getD []))⟩
  (bestNorm.lookup combo).getD combo

/-- The loop of `load_best_csv` over the rows that `csv.DictReader` reads, the same rows as the hash cache's: each
    row's normalized query mapped to its label, a later row of a query overwriting an earlier one. A row without a
    query raises in `normalize_query`. --/
def bestRows (cm : CaseMap) (best : List (String × String)) : List CacheRow → Except String (List (String × String))
  | [] => .ok best
  | row :: rows =>
    match row.query with
    | none => .error "AttributeError: 'NoneType' object has no attribute 'strip'"
    | some query => bestRows cm (setItem best ⟨normalizeQuery query⟩ (bestLabel cm row.bestCombo)) rows

/-- `load_best_csv(path)` on the rows of the file. --/
def loadBestCsv (cm : CaseMap) (rows : List CacheRow) : Except String (List (String × String)) :=
  bestRows cm [] rows

/-- `hamming(a, b)`: the pairs of `zip(a, b)` whose two sides differ. --/
def hamming (a b : List Nat) : Nat :=
  (a.zip b).countP fun (x, y) => x != y

/-- The `rows` of `evaluate`: each query of `best`, in order, that `pred` maps too with both labels in
    `BIT_MAP`, and the bits of the two labels. --/
def evaluationRows (best pred : List (String × String)) : List (String × List Nat × List Nat) :=
  best.filterMap fun (query, bestCombo) => do
    let predCombo ← pred.lookup query
    let b ← bitMap.lookup bestCombo
    let p ← bitMap.lookup predCombo
    return (query, b, p)

/-- The dict that `evaluate` returns when it compared some query, its floats read as rationals. --/
structure Evaluation where
  count : Nat
  exact : Nat
  exactPct : ℚ
  avgHamming : ℚ
  maxHamming : Nat
  distCounts : List (Nat × Nat)

/-- `evaluate(best, pred)`, where `none` is the `{"count": 0}` of no compared query. `sum(dists)` adds from `0`
    left to right, and `max(dists)` of the non-empty `dists` is their fold under `max` from `0`. --/
def evaluate (best pred : List (String × String)) : Option Evaluation :=
  let rows := evaluationRows best pred
  if rows.isEmpty then none
  else
    let dists : List Nat := rows.map fun (_, b, p) => hamming b p
    let exact := rows.countP fun (_, b, p) => b == p
    some
      { count := rows.length, exact := exact, exactPct := (exact : ℚ) / rows.length,
        avgHamming := ((dists.foldl (· + ·) 0 : Nat) : ℚ) / dists.length, maxHamming := dists.foldr max 0,
        distCounts := (List.range 4).map fun i => (i, dists.count i) }

end TeeSelector
