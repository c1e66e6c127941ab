import TeeSelector.Normalize
import TeeSelector.Executor
import TeeSelector.Theorems.Hash

/-! `strip_explain_prefix` removes exactly an EXPLAIN clause in front of a statement, whatever the order in
    which the option set is iterated. Two words that both match at one position are prefixes of one
    another, and none of the options, statement keywords and `explain` is a prefix of another, so at most
    one word matches anywhere (`sliceIs_unique`). -/

namespace TeeSelector

/-! ### Matching words -/

/-- `w` spells `word` in ASCII letters of either case. --/
def Spells (w : List Char) (word : String) : Prop := w.map Char.toLower = word.toList

instance (w : List Char) (word : String) : Decidable (Spells w word) := inferInstanceAs (Decidable (_ = _))

theorem length_of_spells {w : List Char} {word : String} (h : Spells w word) : w.length = word.length := by
  rw [← List.length_map w Char.toLower, h]
  rfl

theorem sliceIs_of_spells {w : List Char} {word : String} (h : Spells w word) (rest : List Char) :
    sliceIs (w ++ rest) word = true := by
  simp only [sliceIs, ← length_of_spells h, List.take_left' rfl, beq_iff_eq]
  exact h

/-- Two words matching at one position are prefixes of one another. --/
theorem prefix_of_sliceIs {rest : List Char} {u v : String} (hu : sliceIs rest u = true)
    (hv : sliceIs rest v = true) (le : u.length ≤ v.length) : u.toList <+: v.toList := by
  simp only [sliceIs, beq_iff_eq] at hu hv
  rw [← hu, ← hv]
  exact (List.take_prefix_take_left rest le).map _

/-- Words of which neither is a prefix of the other never match at one position. --/
theorem sliceIs_apart {rest : List Char} {u v : String}
    (apart : ¬ u.toList <+: v.toList ∧ ¬ v.toList <+: u.toList) (hu : sliceIs rest u = true) :
    sliceIs rest v = false := by
  cases hv : sliceIs rest v
  · rfl
  · rcases Nat.le_total u.length v.length with le | le
    · exact absurd (prefix_of_sliceIs hu hv le) apart.1
    · exact absurd (prefix_of_sliceIs hv hu le) apart.2

theorem options_prefix_free : ∀ u ∈ explainOptions, ∀ v ∈ explainOptions, u.toList <+: v.toList → u = v := by
  decide

theorem option_keyword_apart :
    ∀ u ∈ explainOptions, ∀ v ∈ keywords, ¬ u.toList <+: v.toList ∧ ¬ v.toList <+: u.toList := by
  decide

theorem explain_keyword_apart :
    ∀ v ∈ keywords, ¬ "explain".toList <+: v.toList ∧ ¬ v.toList <+: "explain".toList := by
  decide

/-- Every word the scanner looks for starts with a lower-case letter. --/
theorem words_start_lower : ∀ w ∈ "explain" :: explainOptions ++ keywords,
    (match w.toList with
      | x :: _ => decide (97 ≤ x.toNat ∧ x.toNat ≤ 122)
      | [] => false) = true := by
  decide

/-- At most one option matches at any position. --/
theorem sliceIs_unique {rest : List Char} {u v : String} (hu' : u ∈ explainOptions) (hv' : v ∈ explainOptions)
    (hu : sliceIs rest u = true) (hv : sliceIs rest v = true) : u = v := by
  rcases Nat.le_total u.length v.length with le | le
  · exact options_prefix_free u hu' v hv' (prefix_of_sliceIs hu hv le)
  · exact (options_prefix_free v hv' u hu' (prefix_of_sliceIs hv hu le)).symm

/-- A text spelling one of the scanner's words starts with a character that is neither a space nor `(`. --/
theorem spells_head {w : List Char} {word : String} (h : Spells w word)
    (mem : word ∈ "explain" :: explainOptions ++ keywords) :
    ∃ c w', w = c :: w' ∧ isSpace c = false ∧ c ≠ '(' := by
  have start := words_start_lower word mem
  unfold Spells at h
  rw [← h] at start
  obtain _ | ⟨c, w'⟩ := w
  · cases start
  · simp only [List.map_cons, decide_eq_true_eq] at start
    obtain ⟨lo, hi⟩ := start
    rw [← h] at *
    refine ⟨c, w', rfl, isSpace_of_toLower ⟨lo, hi⟩, fun hc => ?_⟩
    subst hc
    revert lo
    decide

/-! ### Spaces -/

theorem dropWhile_spaces {s : List Char} (spaces : ∀ c ∈ s, isSpace c = true) (r : List Char) :
    (s ++ r).dropWhile isSpace = r.dropWhile isSpace := by
  induction s with
  | nil => rfl
  | cons c s ih =>
    simp only [List.mem_cons, forall_eq_or_imp] at spaces
    simp [List.dropWhile_cons, spaces.1, ih spaces.2]

theorem dropWhile_of_head {c : Char} (h : isSpace c = false) (r : List Char) :
    (c :: r).dropWhile isSpace = c :: r := by
  simp [List.dropWhile_cons, h]

theorem filter_dropWhile (r : List Char) : (r.dropWhile isSpace).filter (!isSpace ·) = r.filter (!isSpace ·) := by
  induction r with
  | nil => rfl
  | cons c r ih => cases h : isSpace c <;> simp [List.dropWhile_cons, List.filter_cons, h, ih]

/-! ### The option loop -/

/-- What `for opt in options:` does once `opt` matches at `rest`: stop after it, raise on `sql[end]`, or,
    its next character being no space, go on with the next option (`some none` when none follows). --/
def optionResult (rest : List Char) (opt : String) : Option (Option (List Char)) :=
  if opt.length == rest.length then some (some (afterOption rest opt))
  else match rest[opt.length]? with
    | none => none
    | some c => if isSpace c then some (some (afterOption rest opt)) else some none

theorem matchOption_of_forall {rest : List Char} {opts : List String}
    (miss : ∀ o ∈ opts, sliceIs rest o = false) : matchOption rest opts = some none := by
  induction opts with
  | nil => rfl
  | cons o opts ih =>
    simp only [List.mem_cons, forall_eq_or_imp] at miss
    simp only [matchOption, miss.1, Bool.false_eq_true, ite_false]
    exact ih miss.2

/-- When `opt` is the only option matching at `rest`, the loop does what `opt` makes it do. --/
theorem matchOption_of_unique {rest : List Char} {opt : String} {opts : List String}
    (hit : sliceIs rest opt = true) (mem : opt ∈ opts) (only : ∀ o ∈ opts, sliceIs rest o = true → o = opt) :
    matchOption rest opts = optionResult rest opt := by
  induction opts with
  | nil => cases mem
  | cons o opts ih =>
    have only' : ∀ o' ∈ opts, sliceIs rest o' = true → o' = opt := fun o' h => only o' (List.mem_cons_of_mem _ h)
    by_cases ho : sliceIs rest o = true
    · obtain rfl := only o (List.mem_cons_self _ _) ho
      simp only [matchOption, ho, ite_true, optionResult]
      split
      · rfl
      cases read : rest[o.length]? with
      | none => rfl
      | some c =>
        cases space : isSpace c
        · simp only [space, Bool.false_eq_true, ite_false]
          by_cases again : o ∈ opts
          · simp [ih again only', optionResult, *]
          · exact matchOption_of_forall fun o' h => by
              cases hit' : sliceIs rest o'
              · rfl
              · exact absurd (only' o' h hit' ▸ h) again
        · simp [space]
    · have mem' : opt ∈ opts := (List.mem_cons.mp mem).resolve_left fun e => ho (e ▸ hit)
      simp only [matchOption, ho, Bool.false_eq_true, ite_false]
      exact ih mem' only'

/-- The option loop does not depend on the order of the option set. --/
theorem matchOption_perm {o₁ o₂ : List String} (h₁ : o₁.Perm explainOptions) (h₂ : o₂.Perm explainOptions)
    (rest : List Char) : matchOption rest o₁ = matchOption rest o₂ := by
  by_cases any : ∃ o ∈ explainOptions, sliceIs rest o = true
  · obtain ⟨o, mem, hit⟩ := any
    have only : ∀ l : List String, l.Perm explainOptions → ∀ o' ∈ l, sliceIs rest o' = true → o' = o :=
      fun l hl o' h' hit' => sliceIs_unique (hl.subset h') mem hit' hit
    rw [matchOption_of_unique hit (h₁.symm.subset mem) (only o₁ h₁),
      matchOption_of_unique hit (h₂.symm.subset mem) (only o₂ h₂)]
  · have miss : ∀ l : List String, l.Perm explainOptions → ∀ o ∈ l, sliceIs rest o = false :=
      fun l hl o h => Bool.eq_false_iff.mpr fun hit => any ⟨o, hl.subset h, hit⟩
    rw [matchOption_of_forall (miss o₁ h₁), matchOption_of_forall (miss o₂ h₂)]

theorem skipOptions_stop {options : List String} {c : Char} {cs : List Char}
    (h : matchOption (c :: cs) options = some none) : skipOptions options (c :: cs) = some (c :: cs) := by
  rw [skipOptions.eq_2]
  split <;> simp_all

theorem skipOptions_next {options : List String} {c : Char} {cs rest' : List Char}
    (h : matchOption (c :: cs) options = some (some rest')) :
    skipOptions options (c :: cs) = skipOptions options rest' := by
  rw [skipOptions.eq_2]
  split <;> simp_all

theorem skipOptions_raise {options : List String} {c : Char} {cs : List Char}
    (h : matchOption (c :: cs) options = none) : skipOptions options (c :: cs) = none := by
  rw [skipOptions.eq_2]
  split <;> simp_all

theorem skipOptions_congr {o₁ o₂ : List String} (same : ∀ rest, matchOption rest o₁ = matchOption rest o₂)
    (rest : List Char) : skipOptions o₁ rest = skipOptions o₂ rest := by
  induction rest using skipOptions.induct o₁ with
  | case1 => rw [skipOptions, skipOptions]
  | case2 c cs h => rw [skipOptions_raise h, skipOptions_raise (same _ ▸ h)]
  | case3 c cs h => rw [skipOptions_stop h, skipOptions_stop (same _ ▸ h)]
  | case4 c cs rest' h ih => rw [skipOptions_next h, skipOptions_next (same _ ▸ h), ih]

/-- `strip_explain_prefix`, and with it `normalize_sql` and the fingerprint, give the same result for every
    iteration order of the option set. --/
theorem stripExplainPrefix_order_free (o₁ o₂ : List String) (h₁ : o₁.Perm explainOptions)
    (h₂ : o₂.Perm explainOptions) :
    (∀ sql, stripExplainPrefix o₁ sql = stripExplainPrefix o₂ sql) ∧
      (∀ cm sql, normalizeSql cm o₁ sql = normalizeSql cm o₂ sql) ∧
      (∀ cm sql, fingerprint cm o₁ sql = fingerprint cm o₂ sql) := by
  have strip : ∀ sql, stripExplainPrefix o₁ sql = stripExplainPrefix o₂ sql := fun sql => by
    simp only [stripExplainPrefix, skipClause, skipOptions_congr (matchOption_perm h₁ h₂)]
  exact ⟨strip, fun cm sql => by simp only [normalizeSql, strip],
    fun cm sql => by simp only [fingerprint, normalizeSql, strip]⟩

theorem stripExplainPrefix_order_free_reverse :
    explainOptions.Perm explainOptions ∧ explainOptions.reverse.Perm explainOptions ∧
      ((∀ sql, stripExplainPrefix explainOptions sql = stripExplainPrefix explainOptions.reverse sql) ∧
      (∀ cm sql, normalizeSql cm explainOptions sql = normalizeSql cm explainOptions.reverse sql) ∧
      (∀ cm sql, fingerprint cm explainOptions sql = fingerprint cm explainOptions.reverse sql)) :=
  ⟨.refl _, List.reverse_perm _,
    stripExplainPrefix_order_free _ _ (.refl _) (List.reverse_perm _)⟩

/-! ### EXPLAIN clauses -/

/-- Balanced brackets: the Dyck words over `(` and `)`, with any other characters anywhere. --/
inductive Balanced : List Char → Prop
  | nil : Balanced []
  | other {c : Char} {s : List Char} : c ≠ '(' → c ≠ ')' → Balanced s → Balanced (c :: s)
  | group {s t : List Char} : Balanced s → Balanced t → Balanced ('(' :: s ++ ')' :: t)

/-- Bare options in any letter case, each followed by at least one space. --/
inductive BareOptions : List Char → Prop
  | nil : BareOptions []
  | cons {w sp rest : List Char} {opt : String} : opt ∈ explainOptions → Spells w opt → sp ≠ [] →
      (∀ c ∈ sp, isSpace c = true) → BareOptions rest → BareOptions (w ++ sp ++ rest)

/-- What may follow `explain`: a bracketed list with balanced brackets and then spaces, or bare options. --/
inductive ExplainClause : List Char → Prop
  | paren {body trail : List Char} : Balanced body → (∀ c ∈ trail, isSpace c = true) →
      ExplainClause ('(' :: body ++ ')' :: trail)
  | bare {opts : List Char} : BareOptions opts → ExplainClause opts

/-- An EXPLAIN prefix: spaces, `explain` in any letter case, spaces, and a clause. --/
def ExplainPrefix (P : List Char) : Prop :=
  ∃ lead e gap clause, P = lead ++ e ++ gap ++ clause ∧ (∀ c ∈ lead, isSpace c = true) ∧
    Spells e "explain" ∧ (∀ c ∈ gap, isSpace c = true) ∧ ExplainClause clause

/-- A query whose first non-space characters spell a statement keyword in either letter case. --/
def StartsWithKeyword (q : List Char) : Prop :=
  ∃ lead w rest kw, q = lead ++ w ++ rest ∧ (∀ c ∈ lead, isSpace c = true) ∧ kw ∈ keywords ∧ Spells w kw

theorem skipParens_cons (depth : Nat) (c : Char) (rest : List Char) :
    skipParens (depth + 1) (c :: rest) =
      if c = '(' then skipParens (depth + 1 + 1) rest
      else if c = ')' then skipParens depth rest
      else skipParens (depth + 1) rest := rfl

theorem skipParens_balanced {s : List Char} (h : Balanced s) (depth : Nat) (r : List Char) :
    skipParens (depth + 1) (s ++ r) = skipParens (depth + 1) r := by
  induction h generalizing depth r with
  | nil => rfl
  | other open' close _ ih =>
    rw [List.cons_append, skipParens_cons, if_neg open', if_neg close, ih]
  | group _ _ ih₁ ih₂ =>
    simp only [List.cons_append, List.append_assoc]
    rw [skipParens_cons, if_pos rfl, ih₁ (depth + 1), skipParens_cons, if_neg (by decide), if_pos rfl, ih₂]

theorem Balanced.append {s t : List Char} (hs : Balanced s) (ht : Balanced t) : Balanced (s ++ t) := by
  induction hs with
  | nil => exact ht
  | other open' close _ ih => exact .other open' close ih
  | group h₁ _ _ ih₂ => simpa only [List.cons_append, List.append_assoc] using Balanced.group h₁ ih₂

/-- Text with neither `(` nor `)`. --/
def NoBrackets (s : List Char) : Prop := '(' ∉ s ∧ ')' ∉ s

instance : DecidablePred NoBrackets := fun _ => inferInstanceAs (Decidable (_ ∧ _))

theorem NoBrackets.balanced {s : List Char} (h : NoBrackets s) : Balanced s := by
  induction s with
  | nil => exact .nil
  | cons c s ih =>
    simp only [NoBrackets, List.mem_cons, not_or] at h
    exact .other (Ne.symm h.1.1) (Ne.symm h.2.1) (ih ⟨h.1.2, h.2.2⟩)

theorem noBrackets_append {s t : List Char} : NoBrackets (s ++ t) ↔ NoBrackets s ∧ NoBrackets t := by
  simp only [NoBrackets, List.mem_append, not_or]
  tauto

theorem noBrackets_intercalate {sep : List Char} (hs : NoBrackets sep) {xs : List (List Char)}
    (h : ∀ x ∈ xs, NoBrackets x) : NoBrackets (sep.intercalate xs) := by
  induction xs with
  | nil => simp [NoBrackets, List.intercalate]
  | cons x xs ih =>
    simp only [List.mem_cons, forall_eq_or_imp] at h
    cases xs with
    | nil => simpa [List.intercalate] using h.1
    | cons y ys =>
      have split : sep.intercalate (x :: y :: ys) = x ++ sep ++ sep.intercalate (y :: ys) := by
        simp [List.intercalate, List.intersperse_cons₂]
      rw [split, noBrackets_append, noBrackets_append]
      exact ⟨⟨h.1, hs⟩, ih h.2⟩

/-- Python's `upper` brings no bracket into text without one. --/
theorem noBrackets_upperStr (cm : CaseMap) {s : List Char} (h : NoBrackets s) : NoBrackets (cm.upperStr s) := by
  simp only [NoBrackets, CaseMap.upperStr, List.mem_flatMap, not_exists, not_and]
  exact ⟨fun c hc hd => h.1 (cm.upper_bracket c _ hd (.inl rfl) ▸ hc),
    fun c hc hd => h.2 (cm.upper_bracket c _ hd (.inr rfl) ▸ hc)⟩

theorem noBrackets_explainOpt (cm : CaseMap) {k : String} {v : ExplainValue} (hk : NoBrackets k.toList)
    (hv : NoBrackets v.str.toList) : NoBrackets (explainOpt cm k v) := by
  have upper := noBrackets_upperStr cm hk
  unfold explainOpt
  split
  · exact noBrackets_append.mpr ⟨by decide, hv⟩
  · split
    · exact upper
    · exact noBrackets_append.mpr ⟨upper, by decide⟩
    · exact noBrackets_append.mpr ⟨upper, by simpa [NoBrackets, ExplainValue.str] using hv⟩

/-- The text `_build_explain_sql` puts in front of the query is an EXPLAIN prefix when its options have no
    brackets. --/
theorem explainPrefix_of_noBrackets {B : List Char} (h : NoBrackets B) :
    ExplainPrefix ("EXPLAIN (".toList ++ B ++ ") ".toList) :=
  ⟨[], "EXPLAIN".toList, [' '], '(' :: B ++ [')', ' '], by simp, by simp, by decide, by simp [isSpace],
    .paren h.balanced (by simp [isSpace])⟩

/-! ### The scanner in front of a statement -/

/-- With its leading spaces dropped, a query that starts with a keyword is that keyword's text and the rest. --/
theorem StartsWithKeyword.dropWhile {q : List Char} (hq : StartsWithKeyword q) :
    ∃ w rest kw, q.dropWhile isSpace = w ++ rest ∧ kw ∈ keywords ∧ Spells w kw := by
  obtain ⟨lead, w, rest, kw, rfl, spaces, mem, spells⟩ := hq
  obtain ⟨c, w', rfl, space, -⟩ := spells_head spells (by simp [mem])
  refine ⟨_, rest, kw, ?_, mem, spells⟩
  rw [List.append_assoc, dropWhile_spaces spaces, List.cons_append, dropWhile_of_head space]

/-- The keyword search stops at once where a keyword begins. --/
theorem findKeyword_keyword {q : List Char} (hq : StartsWithKeyword q) (sql : List Char) :
    findKeyword sql (q.dropWhile isSpace) = q.dropWhile isSpace := by
  obtain ⟨w, rest, kw, eq, mem, spells⟩ := hq.dropWhile
  obtain ⟨c, w', rfl, -, -⟩ := spells_head spells (by simp [mem])
  have found : keywords.any (sliceIs ((c :: w') ++ rest)) = true :=
    List.any_eq_true.mpr ⟨kw, mem, sliceIs_of_spells spells rest⟩
  rw [eq, List.cons_append, findKeyword, if_pos (by rwa [← List.cons_append])]

/-- A query that starts with a keyword carries no EXPLAIN clause. --/
theorem stripExplainPrefix_keyword (options : List String) {q : List Char} (hq : StartsWithKeyword q) :
    stripExplainPrefix options q = some q := by
  obtain ⟨w, rest, kw, eq, mem, spells⟩ := hq.dropWhile
  have miss := sliceIs_apart (explain_keyword_apart kw mem).symm (sliceIs_of_spells spells rest)
  simp [stripExplainPrefix, eq, miss]

theorem skipClause_of_head {options : List String} {x : List Char} (h : ∀ r, x ≠ '(' :: r) :
    skipClause options x = skipOptions options x := by
  unfold skipClause
  split
  · exact absurd rfl (h _)
  · rfl

/-- Bare options start with neither a space nor a bracket, and neither does a keyword. --/
theorem head_of_bare {b q : List Char} (hb : BareOptions b) (hq : StartsWithKeyword q) (r : List Char) :
    (b ++ q).dropWhile isSpace ≠ '(' :: r := by
  cases hb with
  | nil =>
    obtain ⟨w, rest, kw, eq, mem, spells⟩ := hq.dropWhile
    obtain ⟨c, w', rfl, -, ne⟩ := spells_head spells (by simp [mem])
    rw [List.nil_append, eq, List.cons_append]
    exact fun h => ne (List.cons.inj h).1
  | cons mem spells =>
    obtain ⟨c, w', rfl, space, ne⟩ := spells_head spells (by simp [mem])
    rw [List.append_assoc, List.append_assoc, List.cons_append, dropWhile_of_head space]
    exact fun h => ne (List.cons.inj h).1

section Clause
variable {options : List String} (sub : ∀ o ∈ options, o ∈ explainOptions)
  (sup : ∀ o ∈ explainOptions, o ∈ options)
include sub

/-- No option matches where a statement keyword begins. --/
theorem matchOption_keyword {w : List Char} {kw : String} (mem : kw ∈ keywords) (spells : Spells w kw)
    (rest : List Char) : matchOption (w ++ rest) options = some none :=
  matchOption_of_forall fun o h =>
    sliceIs_apart (option_keyword_apart o (sub o h) kw mem).symm (sliceIs_of_spells spells rest)

include sup in
/-- A bare option and the spaces after it are skipped. --/
theorem matchOption_bare {w sp : List Char} {opt : String} (mem : opt ∈ explainOptions) (spells : Spells w opt)
    (ne : sp ≠ []) (spaces : ∀ c ∈ sp, isSpace c = true) (rest : List Char) :
    matchOption (w ++ sp ++ rest) options = some (some (rest.dropWhile isSpace)) := by
  have hit := sliceIs_of_spells spells (sp ++ rest)
  rw [← List.append_assoc] at hit
  rw [matchOption_of_unique hit (sup opt mem) fun o h hit' => sliceIs_unique (sub o h) mem hit' hit]
  obtain _ | ⟨s, sp'⟩ := sp
  · exact absurd rfl ne
  have space : isSpace s = true := spaces s (List.mem_cons_self _ _)
  have len := length_of_spells spells
  simp only [optionResult, afterOption, List.append_assoc, List.length_append, List.length_cons, ← len,
    List.drop_left, List.getElem?_append_right (Nat.le_refl _), Nat.sub_self, List.getElem?_cons_zero,
    space, ite_true, List.cons_append, List.dropWhile_cons, Bool.not_true, Bool.false_eq_true, ite_false,
    ite_self]
  rw [dropWhile_spaces fun c h => spaces c (List.mem_cons_of_mem _ h)]

theorem skipOptions_keyword {q : List Char} (hq : StartsWithKeyword q) :
    skipOptions options (q.dropWhile isSpace) = some (q.dropWhile isSpace) := by
  obtain ⟨w, rest, kw, eq, mem, spells⟩ := hq.dropWhile
  obtain ⟨c, w', rfl, -, -⟩ := spells_head spells (by simp [mem])
  rw [eq]
  exact skipOptions_stop (matchOption_keyword sub mem spells rest)

include sup in
/-- The option loop skips bare options and the spaces after them. --/
theorem skipOptions_bare {b : List Char} (hb : BareOptions b) (r : List Char) :
    skipOptions options ((b ++ r).dropWhile isSpace) = skipOptions options (r.dropWhile isSpace) := by
  induction hb with
  | nil => rfl
  | @cons w sp rest opt mem spells ne spaces _ ih =>
    obtain ⟨c, w', rfl, space, -⟩ := spells_head spells (by simp [mem])
    have next := matchOption_bare sub sup mem spells ne spaces (rest ++ r)
    simp only [List.append_assoc, List.cons_append] at next ⊢
    rw [dropWhile_of_head space, skipOptions_next next, ih]

include sup in
/-- Whichever form the clause after `explain` has, the scan goes on right at the statement. --/
theorem skipClause_clause {clause q : List Char} (hc : ExplainClause clause) (hq : StartsWithKeyword q) :
    skipClause options ((clause ++ q).dropWhile isSpace) = some (q.dropWhile isSpace) := by
  cases hc with
  | paren body trail =>
    simp only [List.cons_append, List.append_assoc]
    rw [dropWhile_of_head (by decide), skipClause, skipParens_balanced body 0, skipParens_cons, if_neg (by decide),
      if_pos rfl, skipParens, dropWhile_spaces trail]
  | bare hb =>
    rw [skipClause_of_head (head_of_bare hb hq), skipOptions_bare sub sup hb, skipOptions_keyword sub hq]

include sup in
/-- `strip_explain_prefix` returns the statement after an EXPLAIN prefix, from its first non-space character. --/
theorem stripExplainPrefix_append {P q : List Char} (hP : ExplainPrefix P) (hq : StartsWithKeyword q) :
    stripExplainPrefix options (P ++ q) = some (q.dropWhile isSpace) := by
  obtain ⟨lead, e, gap, clause, rfl, lead_sp, explain, gap_sp, hc⟩ := hP
  obtain ⟨c, e', rfl, space, -⟩ := spells_head explain (by simp)
  have drop : (lead ++ (c :: e') ++ gap ++ clause ++ q).dropWhile isSpace = (c :: e') ++ (gap ++ (clause ++ q)) := by
    simp only [List.append_assoc, dropWhile_spaces lead_sp, List.cons_append, dropWhile_of_head space]
  have len : (c :: e').length = 7 := length_of_spells explain
  simp only [stripExplainPrefix, drop, sliceIs_of_spells explain, Bool.not_true, Bool.false_eq_true, ite_false,
    List.drop_left' len, dropWhile_spaces gap_sp, skipClause_clause sub sup hc hq,
    Option.map_some', findKeyword_keyword hq]

end Clause

/-! ### Fingerprints of EXPLAIN statements -/

/-- An EXPLAIN prefix in front of a statement changes neither its normalized text nor, so, its fingerprint.
    In particular the statement `_build_explain_sql` sends, for an option mapping whose keys and values have
    no brackets, has the fingerprint of the query file it came from. --/
theorem normalizeSql_explain_clause (cm : CaseMap) {options : List String} (perm : options.Perm explainOptions)
    {q : List Char} (hq : StartsWithKeyword q) :
    (∀ P, ExplainPrefix P → normalizeSql cm options (P ++ q) = normalizeSql cm options q) ∧
      ∀ opts : List (String × ExplainValue), (∀ kv ∈ opts, NoBrackets kv.1.toList ∧ NoBrackets kv.2.str.toList) →
        normalizeSql cm options (buildExplainSql cm opts q) = normalizeSql cm options q ∧
          fingerprint cm options (buildExplainSql cm opts q) = fingerprint cm options q := by
  have stripped : ∀ P, ExplainPrefix P → normalizeSql cm options (P ++ q) = normalizeSql cm options q :=
    fun P hP => by
      simp only [normalizeSql, stripExplainPrefix_append (fun o h => perm.subset h) (fun o h => perm.symm.subset h)
        hP hq, stripExplainPrefix_keyword options hq, Option.map_some', filter_dropWhile]
  refine ⟨stripped, fun opts h => ?_⟩
  have plain : ∀ x ∈ opts.map (fun (k, v) => explainOpt cm k v), NoBrackets x := by
    simp only [List.mem_map, Prod.exists, forall_exists_index, and_imp]
    rintro x k v mem rfl
    exact noBrackets_explainOpt cm (h _ mem).1 (h _ mem).2
  have sent := stripped _
    (explainPrefix_of_noBrackets (noBrackets_intercalate (show NoBrackets ", ".toList by decide) plain))
  exact ⟨sent, by simp only [fingerprint, buildExplainSql, sent]⟩

theorem normalizeSql_explain_clause_select :
    explainOptions.Perm explainOptions ∧ StartsWithKeyword "select 1".toList ∧
      ((∀ P, ExplainPrefix P →
        normalizeSql CaseMap.ascii explainOptions (P ++ "select 1".toList) =
          normalizeSql CaseMap.ascii explainOptions "select 1".toList) ∧
      ∀ opts : List (String × ExplainValue), (∀ kv ∈ opts, NoBrackets kv.1.toList ∧ NoBrackets kv.2.str.toList) →
        normalizeSql CaseMap.ascii explainOptions (buildExplainSql CaseMap.ascii opts "select 1".toList) =
            normalizeSql CaseMap.ascii explainOptions "select 1".toList ∧
          fingerprint CaseMap.ascii explainOptions (buildExplainSql CaseMap.ascii opts "select 1".toList) =
            fingerprint CaseMap.ascii explainOptions "select 1".toList) :=
  have select : StartsWithKeyword "select 1".toList :=
    ⟨[], "select".toList, " 1".toList, "select", rfl, by simp, by decide, rfl⟩
  ⟨.refl _, select, normalizeSql_explain_clause CaseMap.ascii (.refl _) select⟩

/-- The hash `main` writes for a query file, `h - 0x100000000` when `h & 0x80000000`, is PostgreSQL's
    `hash_bytes` of the normalized text read as a signed 32-bit `int4`. --/
theorem fingerprint_eq_toInt (cm : CaseMap) (options : List String) (sql : List Char) :
    fingerprint cm options sql = (normalizeSql cm options sql).map fun norm => (Hash.Pg.hashBytes norm).toInt := by
  simp only [fingerprint, Hash.signed_hashBytes]

end TeeSelector
