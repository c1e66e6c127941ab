import Mathlib.Data.List.DropRight
import TeeSelector.Normalize

/-! `map_scenario` sends each canonical label to itself. A second mapping keeps the label of the first unless the
    input is whitespace only, or its stripped text is no key of the table while the lower case of its upper case
    is a key with another label, which no ASCII text is. A whitespace-only input passes the emptiness test,
    which comes before `strip`, and is sent to the empty label, which is then sent to `NONE`. -/

namespace TeeSelector

/-! ### Stripping -/

theorem strip_eq_rdropWhile (s : List Char) : strip s = (s.dropWhile isSpace).rdropWhile isSpace := rfl

theorem strip_eq_nil {s : List Char} : strip s = [] ↔ ∀ c ∈ s, isSpace c = true := by
  rw [strip_eq_rdropWhile, List.rdropWhile_eq_nil_iff]
  refine ⟨fun h => List.dropWhile_eq_nil_iff.mp ?_, fun h c mem => h c ((List.dropWhile_sublist _).subset mem)⟩
  cases rest : s.dropWhile isSpace with
  | nil => rfl
  | cons c r =>
    have head := List.head_dropWhile_not isSpace s (by simp [rest])
    simp only [rest, List.head_cons] at head
    simp [h c (by simp [rest])] at head

/-- Text that starts and ends with a non-space character is its own `strip`. --/
theorem strip_of_ends {x m l : List Char} {c d : Char} (first : x = c :: m) (hc : isSpace c = false)
    (last : x = l ++ [d]) (hd : isSpace d = false) : strip x = x := by
  rw [strip_eq_rdropWhile, first, List.dropWhile_cons_of_neg (by simp [hc]), ← first, last,
    List.rdropWhile_concat_neg _ _ _ (by simp [hd])]

theorem strip_first {s : List Char} (ne : strip s ≠ []) : ∃ c m, strip s = c :: m ∧ isSpace c = false := by
  obtain ⟨t, prefixed⟩ := List.rdropWhile_prefix isSpace (s.dropWhile isSpace)
  rw [← strip_eq_rdropWhile] at prefixed
  cases stripped : strip s with
  | nil => exact absurd stripped ne
  | cons c m =>
    refine ⟨c, m, rfl, ?_⟩
    have rest : s.dropWhile isSpace ≠ [] := by rw [← prefixed, stripped]; simp
    have head := List.head_dropWhile_not isSpace s rest
    simpa only [← prefixed, stripped, List.cons_append, List.head_cons] using head

theorem strip_last {s : List Char} (ne : strip s ≠ []) : ∃ l d, strip s = l ++ [d] ∧ isSpace d = false := by
  refine ⟨(strip s).dropLast, (strip s).getLast ne, (List.dropLast_append_getLast ne).symm, ?_⟩
  have last := List.rdropWhile_last_not (p := isSpace) (l := s.dropWhile isSpace) ne
  simpa [strip_eq_rdropWhile] using last

/-! ### Case mapping -/

namespace CaseMap

variable (cm : CaseMap)

theorem upperStr_append (x y : List Char) : cm.upperStr (x ++ y) = cm.upperStr x ++ cm.upperStr y :=
  List.flatMap_append _ _ _

theorem upperStr_upperStr (x : List Char) : cm.upperStr (cm.upperStr x) = cm.upperStr x := by
  induction x with
  | nil => rfl
  | cons c x ih =>
    have step : cm.upperStr (c :: x) = cm.upper c ++ cm.upperStr x := rfl
    rw [step, upperStr_append, ih]
    exact congrArg (· ++ _) (cm.upper_upper c)

/-- Upper-casing keeps a non-space character first and last. --/
theorem upperStr_ends {x m l : List Char} {c d : Char} (first : x = c :: m) (hc : isSpace c = false)
    (last : x = l ++ [d]) (hd : isSpace d = false) :
    ∃ c' m' l' d', cm.upperStr x = c' :: m' ∧ isSpace c' = false ∧ cm.upperStr x = l' ++ [d'] ∧
      isSpace d' = false := by
  obtain ⟨l', d', tail⟩ : ∃ l' d', cm.upper d = l' ++ [d'] :=
    ⟨_, _, (List.dropLast_append_getLast (cm.upper_ne_nil d)).symm⟩
  cases head : cm.upper c with
  | nil => exact absurd head (cm.upper_ne_nil c)
  | cons c' m' =>
    refine ⟨c', m' ++ cm.upperStr m, cm.upperStr l ++ l', d', ?_, cm.upper_space c hc c' (by simp [head]), ?_,
      cm.upper_space d hd d' (by simp [tail])⟩
    · rw [first, show cm.upperStr (c :: m) = cm.upper c ++ cm.upperStr m from rfl, head, List.cons_append]
    · rw [last, upperStr_append, show cm.upperStr [d] = cm.upper d from List.append_nil _, tail,
        List.append_assoc]

/-- Python's tables act on ASCII text as ASCII case mapping. --/
theorem lowerStr_of_ascii {s : List Char} (ascii : ∀ c ∈ s, c.toNat < 128) :
    cm.lowerStr s = CaseMap.ascii.lowerStr s := by
  induction s with
  | nil => rfl
  | cons c s ih =>
    simp only [List.mem_cons, forall_eq_or_imp] at ascii
    exact congrArg₂ (· ++ ·) (cm.lower_ascii c ascii.1) (ih ascii.2)

theorem upperStr_of_ascii {s : List Char} (ascii : ∀ c ∈ s, c.toNat < 128) :
    cm.upperStr s = CaseMap.ascii.upperStr s := by
  induction s with
  | nil => rfl
  | cons c s ih =>
    simp only [List.mem_cons, forall_eq_or_imp] at ascii
    exact congrArg₂ (· ++ ·) (cm.upper_ascii c ascii.1) (ih ascii.2)

end CaseMap

/-! ### Labels -/

/-- `map_scenario` on ASCII text does not depend on the rest of Python's tables. --/
theorem mapScenario_of_ascii (cm : CaseMap) {s : List Char} (ascii : ∀ c ∈ s, c.toNat < 128) :
    mapScenario cm s = mapScenario CaseMap.ascii s := by
  have stripped : ∀ c ∈ strip s, c.toNat < 128 := fun c mem =>
    ascii c ((List.dropWhile_sublist _).subset ((List.rdropWhile_prefix isSpace (s.dropWhile isSpace)).subset mem))
  simp only [mapScenario, cm.lowerStr_of_ascii stripped, cm.upperStr_of_ascii stripped]

/-- The labels `map_scenario` gives for recognized or empty input. --/
def canonicalLabels : List String := "NONE" :: scenarioMapping.map Prod.snd

theorem canonicalLabels_ascii : ∀ l ∈ canonicalLabels, ∀ c ∈ l.toList, c.toNat < 128 := by decide

/-- Every canonical label is sent to itself. --/
theorem mapScenario_canonical (cm : CaseMap) : ∀ l ∈ canonicalLabels, mapScenario cm l.toList = l.toList := by
  have fixed : ∀ l ∈ canonicalLabels, mapScenario CaseMap.ascii l.toList = l.toList := by decide
  exact fun l mem => (mapScenario_of_ascii cm (canonicalLabels_ascii l mem)).trans (fixed l mem)

/-! ### Mapping twice -/

theorem mapScenario_of_ne_nil (cm : CaseMap) {s : List Char} (ne : s ≠ []) :
    mapScenario cm s =
      ((scenarioMapping.lookup ⟨cm.lowerStr (strip s)⟩).map String.toList).getD (cm.upperStr (strip s)) := by
  simp [mapScenario, ne]

/-- A whitespace-only input is sent to the empty label. --/
theorem mapScenario_blank (cm : CaseMap) {s : List Char} (ne : s ≠ []) (blank : ∀ c ∈ s, isSpace c = true) :
    mapScenario cm s = [] := by
  rw [mapScenario_of_ne_nil cm ne, strip_eq_nil.mpr blank]
  rfl

/-- For every case table: every canonical label is sent to itself. An input that is empty or has a non-space
    character is sent by a second mapping to the label of the first exactly when its stripped text is a key of
    the table, or the lower case of its upper case is no key whose label differs from that upper case (every
    ASCII text qualifies). A whitespace-only input is sent to the empty label, which is then sent to `NONE`. --/
theorem mapScenario_idempotent (cm : CaseMap) :
    (∀ l ∈ canonicalLabels, mapScenario cm l.toList = l.toList) ∧
    (∀ s, (s = [] ∨ ∃ c ∈ s, isSpace c = false) →
      (mapScenario cm (mapScenario cm s) = mapScenario cm s ↔
        (scenarioMapping.lookup ⟨cm.lowerStr (strip s)⟩).isSome ∨
          ∀ label, scenarioMapping.lookup ⟨cm.lowerStr (cm.upperStr (strip s))⟩ = some label →
            label.toList = cm.upperStr (strip s))) ∧
    (∀ s, s ≠ [] → (∀ c ∈ s, isSpace c = true) →
      mapScenario cm s = [] ∧ mapScenario cm (mapScenario cm s) = "NONE".toList) := by
  refine ⟨mapScenario_canonical cm, fun s content => ?_, fun s ne blank => ?_⟩
  · rcases content with rfl | ⟨c, mem, hc⟩
    · exact iff_of_true (mapScenario_canonical cm "NONE" (List.mem_cons_self _ _)) (.inr fun _ h => by cases h)
    have kept : strip s ≠ [] := fun h => by simp [(strip_eq_nil.mp h) c mem] at hc
    rw [mapScenario_of_ne_nil cm (List.ne_nil_of_mem mem)]
    cases found : scenarioMapping.lookup ⟨cm.lowerStr (strip s)⟩ with
    | some label =>
      obtain ⟨l₁, l₂, split, -⟩ := List.lookup_eq_some_iff.mp found
      refine iff_of_true ?_ (.inl rfl)
      exact mapScenario_canonical cm label
        (List.mem_cons_of_mem _ (List.mem_map.mpr ⟨(⟨cm.lowerStr (strip s)⟩, label), by simp [split], rfl⟩))
    | none =>
      obtain ⟨c₁, m, first, hc₁⟩ := strip_first kept
      obtain ⟨l, d, last, hd⟩ := strip_last kept
      obtain ⟨c₂, m', l', d', first', hc₂, last', hd'⟩ := cm.upperStr_ends first hc₁ last hd
      have stripped := strip_of_ends first' hc₂ last' hd'
      rw [Option.map_none', Option.getD_none, mapScenario_of_ne_nil cm (by rw [first']; simp), stripped,
        cm.upperStr_upperStr]
      cases scenarioMapping.lookup ⟨cm.lowerStr (cm.upperStr (strip s))⟩ <;> simp
  · have blank' := mapScenario_blank cm ne blank
    exact ⟨blank', by rw [blank']; rfl⟩

end TeeSelector
