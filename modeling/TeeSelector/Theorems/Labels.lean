import TeeSelector.Theorems.Components
import TeeSelector.Theorems.Scenario

/-! The scripts agree on what each best combination means. The hash cache stores, for each row of the
    best-combination CSV, the scenario `map_scenario` gives its `best_combo`; `load_best_csv` reads the same row as
    a label through `BEST_NORM`. Whenever that label is one that `BIT_MAP` knows, the stored scenario is component
    text that `COMPONENT_RE` captures whole, `parse_map_line` keeps as it is and `COMP_NORM` names, and its label
    has the same bits. So a selector that reports the cached scenario of every query is scored exact on every query
    that `evaluate` compares. -/

namespace TeeSelector

/-! ### Component text that reads back unchanged -/

theorem removeGroups_of_not_mem : ∀ {s : List Char}, '(' ∉ s → removeGroups s = s
  | [], _ => by rw [removeGroups]
  | c :: s, h => by
    have open_ne : c ≠ '(' := by rintro rfl; exact h (List.mem_cons_self _ s)
    rw [removeGroups, if_neg open_ne, removeGroups_of_not_mem (List.not_mem_of_not_mem_cons h)]

theorem replaceAll_of_not_mem {old new : List Char} {x : Char} (hx : x ∈ old) :
    ∀ {s : List Char}, x ∉ s → replaceAll old new s = s
  | [], _ => by rw [replaceAll]
  | c :: s, h => by
    have noMatch : ¬(old ≠ [] ∧ old.isPrefixOf (c :: s) = true) := fun ⟨_, pre⟩ =>
      h ((List.isPrefixOf_iff_prefix.mp pre).subset hx)
    rw [replaceAll, dif_neg noMatch, replaceAll_of_not_mem hx (List.not_mem_of_not_mem_cons h)]

/-- Component text that `parse_map_line` keeps as it is: stripped, with no parenthesis, no `u` (so no `Auto`) and
    no space, and upper-case ASCII. --/
def PlainComponent (s : List Char) : Prop :=
  strip s = s ∧ '(' ∉ s ∧ 'u' ∉ s ∧ ' ' ∉ s ∧ (∀ c ∈ s, c.toNat < 128) ∧ CaseMap.ascii.upperStr s = s

instance : DecidablePred PlainComponent := fun _ => inferInstanceAs (Decidable (_ ∧ _))

theorem componentKey_of_plain (cm : CaseMap) {s : List Char} (h : PlainComponent s) : componentKey cm s = s := by
  obtain ⟨stripped, noParen, noU, noSpace, ascii, upper⟩ := h
  simp only [componentKey, stripped, removeGroups_of_not_mem noParen,
    replaceAll_of_not_mem (show 'u' ∈ "Auto: ".toList by decide) noU,
    replaceAll_of_not_mem (show 'u' ∈ "Auto".toList by decide) noU,
    replaceAll_of_not_mem (show ' ' ∈ " ".toList by decide) noSpace, cm.upperStr_of_ascii ascii, upper]

/-- A log line that reports a capture gives that capture as its one component. --/
theorem findComponents_report {comp : List Char} (hc : isComponentCapture comp = true) :
    findComponents (componentMarker ++ comp) = [comp] := by
  rw [findComponents_of_group (List.isPrefixOf_iff_prefix.mpr (List.prefix_append _ _))
    (by rw [List.drop_left]; exact componentGroup_of_capture hc), findComponents_nil]

/-! ### The label tables -/

/-- Each scenario that `map_scenario` gives a label of `BIT_MAP` is captured whole, read back unchanged and named
    by `COMP_NORM`, and `COMP_NORM`'s label of it has the bits of `BEST_NORM`'s label of the combination. --/
theorem scenario_table : ∀ kv ∈ scenarioMapping ++ [("none", "NONE")],
    isComponentCapture kv.2.toList = true ∧ PlainComponent kv.2.toList ∧ (compNorm.lookup kv.2).isSome ∧
      bitMap.lookup ((compNorm.lookup kv.2).getD "") = bitMap.lookup ((bestNorm.lookup kv.1).getD kv.1) := by
  decide

theorem bestNorm_lookup_none {k : String} (h : scenarioMapping.lookup k = none) : bestNorm.lookup k = none := by
  have sameKeys : ∀ p ∈ bestNorm, ∃ q ∈ scenarioMapping, q.1 = p.1 := by decide
  refine List.lookup_eq_none_iff.mpr fun p hp => ?_
  obtain ⟨q, hq, key⟩ := sameKeys p hp
  exact key ▸ List.lookup_eq_none_iff.mp h q hq

/-- A label of `BIT_MAP` that no key of `map_scenario`'s table has is `none`. --/
theorem eq_none_of_bitMap {k : String} (h : scenarioMapping.lookup k = none) (known : (bitMap.lookup k).isSome) :
    k = "none" := by
  have labels : ∀ p ∈ bitMap, p.1 = "none" ∨ ∃ q ∈ scenarioMapping, q.1 = p.1 := by decide
  obtain ⟨p, hp, key⟩ := List.lookup_isSome_iff.mp known
  rcases labels p hp with none | ⟨q, hq, same⟩
  · exact (beq_iff_eq.mp key).trans none
  · exact absurd (same ▸ key) (by simpa using List.lookup_eq_none_iff.mp h q hq)

/-- Where the label of a best combination is one that `BIT_MAP` knows, `map_scenario` gives it a scenario of the
    table, or `NONE` for `none`, and `load_best_csv` the label of the same entry. `NONE` rests on the case table:
    only a text that lower-cases to `none` upper-cases to `NONE`, as in Python's. --/
theorem scenario_of_known (cm : CaseMap) (noneCase : ∀ s, cm.lowerStr s = "none".toList → cm.upperStr s = "NONE".toList)
    (bestCombo : Option (List Char)) (known : (bitMap.lookup (bestLabel cm bestCombo)).isSome) :
    ∃ kv ∈ scenarioMapping ++ [("none", "NONE")], mapScenario cm (bestCombo.getD []) = kv.2.toList ∧
      bestLabel cm bestCombo = (bestNorm.lookup kv.1).getD kv.1 := by
  obtain ⟨b, hb⟩ : ∃ b, bestCombo.getD [] = b := ⟨_, rfl⟩
  have label : bestLabel cm bestCombo =
      (bestNorm.lookup ⟨cm.lowerStr (strip b)⟩).getD ⟨cm.lowerStr (strip b)⟩ := by
    simp only [bestLabel, hb]
  rw [hb]
  cases b with
  | nil =>
    have empty : cm.lowerStr (strip []) = [] := rfl
    rw [label, empty] at known
    exact absurd known (by decide)
  | cons c cs =>
    have mapped : mapScenario cm (c :: cs) = ((scenarioMapping.lookup ⟨cm.lowerStr (strip (c :: cs))⟩).map
        String.toList).getD (cm.upperStr (strip (c :: cs))) := rfl
    cases h : scenarioMapping.lookup ⟨cm.lowerStr (strip (c :: cs))⟩ with
    | some v =>
      obtain ⟨l₁, l₂, split, -⟩ := List.lookup_eq_some_iff.mp h
      exact ⟨(⟨cm.lowerStr (strip (c :: cs))⟩, v),
        List.mem_append_left _ (split ▸ List.mem_append_right l₁ (List.mem_cons_self _ l₂)),
        by rw [mapped, h]; rfl, label⟩
    | none =>
      rw [label, bestNorm_lookup_none h, Option.getD_none] at known
      have lower := congrArg String.data (eq_none_of_bitMap h known)
      refine ⟨("none", "NONE"), List.mem_append_right _ (List.mem_singleton_self _),
        by rw [mapped, h]; exact noneCase _ lower, ?_⟩
      rw [label, bestNorm_lookup_none h, Option.getD_none, eq_none_of_bitMap h known]
      rfl

/-! ### The rows of the best-combination CSV -/

/-- Each entry that `load_best_csv` keeps is a row's normalized query and the label of the row's combination. --/
theorem bestRows_entry (cm : CaseMap) : ∀ {rows : List CacheRow} {best best' : List (String × String)},
    bestRows cm best rows = .ok best' → ∀ e ∈ best', e ∈ best ∨
      ∃ row ∈ rows, ∃ query, row.query = some query ∧ e = (⟨normalizeQuery query⟩, bestLabel cm row.bestCombo)
  | [], _, _, h, e, m => by cases h; exact .inl m
  | row :: rows, best, best', h, e, m => by
    simp only [bestRows] at h
    split at h
    · cases h
    · next query hq =>
      rcases bestRows_entry cm h e m with old | ⟨r, hr, q, hq', rfl⟩
      · exact (Json.mem_setItem old).imp id fun new => ⟨row, List.mem_cons_self _ _, query, hq, new⟩
      · exact .inr ⟨r, List.mem_cons_of_mem _ hr, q, hq', rfl⟩

/-- For every best-combination CSV and every case table in which only a text that lower-cases to `none`
    upper-cases to `NONE`: each query that `load_best_csv` maps to a label of `BIT_MAP` comes from a row whose
    scenario in the hash cache is captured whole by `COMPONENT_RE` from a log line that reports it, and is read
    back from the mapping file as a label with the same bits. --/
theorem loadBestCsv_scenarios_agree (cm : CaseMap)
    (noneCase : ∀ s, cm.lowerStr s = "none".toList → cm.upperStr s = "NONE".toList) {rows : List CacheRow}
    {best : List (String × String)} (read : loadBestCsv cm rows = .ok best) {q label : String}
    (entry : (q, label) ∈ best) (known : (bitMap.lookup label).isSome) :
    ∃ row ∈ rows, ∃ query, row.query = some query ∧ q = ⟨normalizeQuery query⟩ ∧
      isComponentCapture (mapScenario cm (row.bestCombo.getD [])) = true ∧
      findComponents (componentMarker ++ mapScenario cm (row.bestCombo.getD [])) =
        [mapScenario cm (row.bestCombo.getD [])] ∧
      bitMap.lookup (normalizeComponent cm (componentKey cm (mapScenario cm (row.bestCombo.getD [])))) =
        bitMap.lookup label := by
  rcases bestRows_entry cm read _ entry with nil | ⟨row, mem, query, hq, e⟩
  · cases nil
  obtain ⟨rfl, rfl⟩ := Prod.mk.inj e
  obtain ⟨⟨k, v⟩, kv, scenario, labelEq⟩ := scenario_of_known cm noneCase row.bestCombo known
  obtain ⟨capture, plain, named, bits⟩ := scenario_table _ kv
  obtain ⟨w, hw⟩ := Option.isSome_iff_exists.mp named
  have read_back : normalizeComponent cm (componentKey cm v.toList) = w := by
    rw [componentKey_of_plain cm plain, normalizeComponent, show (⟨v.toList⟩ : String) = v from rfl]
    simp only [hw, Option.getD_some]
  refine ⟨row, mem, query, hq, rfl, scenario ▸ capture, scenario ▸ findComponents_report capture, ?_⟩
  rw [scenario, read_back, labelEq]
  simpa only [hw, Option.getD_some] using bits

theorem Char.toUpper_toLower (c : Char) : c.toLower.toUpper = c.toUpper := by
  apply Char.eq_of_toNat_eq
  rw [Char.toNat_toUpper, Char.toNat_toUpper, Char.toNat_toLower]
  split_ifs <;> omega

/-- In the ASCII tables only a text that lower-cases to `none` upper-cases to `NONE`. --/
theorem ascii_upper_of_lower_none (s : List Char) (h : CaseMap.ascii.lowerStr s = "none".toList) :
    CaseMap.ascii.upperStr s = "NONE".toList := by
  have same : ∀ t : List Char, CaseMap.ascii.upperStr (CaseMap.ascii.lowerStr t) = CaseMap.ascii.upperStr t := by
    intro t
    induction t with
    | nil => rfl
    | cons c t ih =>
      simp only [CaseMap.upperStr, CaseMap.lowerStr, CaseMap.ascii] at ih ⊢
      simp [Char.toUpper_toLower, ih]
  rw [← same, h]
  rfl

/-- The sample rows: one query whose best combination is written `All`. --/
def sampleBestRows : List CacheRow := [⟨some "q1_round1".toList, some " All ".toList⟩]

theorem loadBestCsv_scenarios_agree_sample :
    (∀ s, CaseMap.ascii.lowerStr s = "none".toList → CaseMap.ascii.upperStr s = "NONE".toList) ∧
    loadBestCsv .ascii sampleBestRows = .ok [("q1", "all_three")] ∧ ("q1", "all_three") ∈ [("q1", "all_three")] ∧
    (bitMap.lookup "all_three").isSome ∧
    ∃ row ∈ sampleBestRows, ∃ query, row.query = some query ∧ "q1" = ⟨normalizeQuery query⟩ ∧
      isComponentCapture (mapScenario .ascii (row.bestCombo.getD [])) = true ∧
      findComponents (componentMarker ++ mapScenario .ascii (row.bestCombo.getD [])) =
        [mapScenario .ascii (row.bestCombo.getD [])] ∧
      bitMap.lookup (normalizeComponent .ascii (componentKey .ascii (mapScenario .ascii (row.bestCombo.getD [])))) =
        bitMap.lookup "all_three" :=
  have read : loadBestCsv .ascii sampleBestRows = .ok [("q1", "all_three")] := rfl
  ⟨ascii_upper_of_lower_none, read, List.mem_singleton_self _, rfl,
    loadBestCsv_scenarios_agree .ascii ascii_upper_of_lower_none read (List.mem_singleton_self _) rfl⟩

end TeeSelector
