import TeeSelector.Theorems.Explain

/-! `strip_explain_prefix` is safe on every string: it returns, it reads no character past the end of `sql`,
    and it gives back `sql` itself or `sql[p:]` for a position `p` where a statement keyword begins. Each of
    its loops leaves a suffix of the text it was given. The one read that `p < n` does not guard, `sql[end]`
    after an option, stays inside `sql`, because an option's slice matches only when it is whole. -/

namespace TeeSelector

/-! ### The read after an option -/

/-- A word's slice matches only when it is whole: `p + len(w) ≤ n`. --/
theorem length_le_of_sliceIs {rest : List Char} {w : String} (h : sliceIs rest w = true) :
    w.length ≤ rest.length := by
  simp only [sliceIs, beq_iff_eq] at h
  have same : (rest.take w.length).length = w.length := by
    rw [← List.length_map _ Char.toLower, h]
    rfl
  simp only [List.length_take] at same
  omega

/-- The option loop never raises: after a matched slice, `sql[end]` is read only when `end ≠ n`, and then
    `end < n`. --/
theorem matchOption_ne_none (rest : List Char) : ∀ opts : List String, matchOption rest opts ≠ none
  | [] => by simp [matchOption]
  | opt :: opts => by
    simp only [matchOption]
    split
    next hit =>
      split
      · simp
      next whole =>
        have inside : opt.length < rest.length := by
          have := length_le_of_sliceIs hit
          simp only [beq_iff_eq] at whole
          omega
        rw [List.getElem?_eq_getElem inside]
        dsimp only
        split
        · simp
        · exact matchOption_ne_none rest opts
    · exact matchOption_ne_none rest opts

/-! ### Each loop leaves a suffix -/

theorem skipParens_suffix : ∀ (depth : Nat) (rest : List Char), skipParens depth rest <:+ rest
  | 0, rest => (skipParens.eq_1 rest).symm ▸ List.suffix_refl rest
  | depth + 1, [] => (skipParens.eq_2 depth).symm ▸ List.suffix_refl []
  | depth + 1, c :: rest => by
    rw [skipParens_cons]
    split_ifs <;> exact (skipParens_suffix _ rest).trans (List.suffix_cons c rest)

theorem afterOption_suffix (rest : List Char) (opt : String) : afterOption rest opt <:+ rest :=
  ((List.dropWhile_suffix _).trans (List.dropWhile_suffix _)).trans (List.drop_suffix _ _)

/-- The loop over the bare options returns, with a suffix of the text it starts at. --/
theorem skipOptions_suffix (options : List String) (rest : List Char) :
    ∃ r, skipOptions options rest = some r ∧ r <:+ rest := by
  induction rest using skipOptions.induct options with
  | case1 => exact ⟨[], by rw [skipOptions], List.suffix_refl []⟩
  | case2 c cs h => exact absurd h (matchOption_ne_none _ options)
  | case3 c cs h => exact ⟨_, skipOptions_stop h, List.suffix_refl _⟩
  | case4 c cs rest' h ih =>
    obtain ⟨r, run, suffix⟩ := ih
    obtain ⟨opt, rfl, -⟩ := matchOption_some h
    exact ⟨r, (skipOptions_next h).trans run, suffix.trans (afterOption_suffix _ opt)⟩

theorem skipClause_suffix (options : List String) (rest : List Char) :
    ∃ r, skipClause options rest = some r ∧ r <:+ rest := by
  unfold skipClause
  split
  · exact ⟨_, rfl, (List.dropWhile_suffix _).trans ((skipParens_suffix 1 _).trans (List.suffix_cons _ _))⟩
  · exact skipOptions_suffix options _

theorem stripExplainPrefix_isSome (options : List String) (sql : List Char) :
    (stripExplainPrefix options sql).isSome := by
  obtain ⟨r, run, -⟩ := skipClause_suffix options (((sql.dropWhile isSpace).drop 7).dropWhile isSpace)
  dsimp only [stripExplainPrefix]
  split
  · rfl
  · rw [run]; rfl

/-- The keyword search gives back `sql`, or a suffix of the text it searches that starts with a keyword. --/
theorem findKeyword_spec (sql : List Char) : ∀ rest : List Char,
    findKeyword sql rest = sql ∨ (findKeyword sql rest <:+ rest ∧ keywords.any (sliceIs (findKeyword sql rest)))
  | [] => .inl rfl
  | c :: rest => by
    rw [findKeyword]
    split
    next found => exact .inr ⟨List.suffix_refl _, found⟩
    · rcases findKeyword_spec sql rest with same | ⟨suffix, found⟩
      · exact .inl same
      · exact .inr ⟨suffix.trans (List.suffix_cons c rest), found⟩

/-! ### The whole scanner -/

/-- For every string and every iteration order of the option set, `strip_explain_prefix` returns. The read
    `sql[end]` after an option that matches at a position `p < n` has `end < n` unless `end = n`. The result
    is `sql` or `sql[p:]` for a position `p` where a statement keyword begins. --/
theorem stripExplainPrefix_safe (options : List String) (sql : List Char) :
    (∀ p < sql.length, ∀ opt : String, sliceIs (sql.drop p) opt = true → p + opt.length ≠ sql.length →
      p + opt.length < sql.length) ∧
    ∃ r, stripExplainPrefix options sql = some r ∧
      (r = sql ∨ ∃ p < sql.length, r = sql.drop p ∧ keywords.any (sliceIs r) = true) := by
  refine ⟨fun p _ opt hit ne => ?_, ?_⟩
  · have := length_le_of_sliceIs hit
    simp only [List.length_drop] at this
    omega
  dsimp only [stripExplainPrefix]
  split
  · exact ⟨sql, rfl, .inl rfl⟩
  obtain ⟨r, run, suffix⟩ := skipClause_suffix options (((sql.dropWhile isSpace).drop 7).dropWhile isSpace)
  have inSql : r <:+ sql :=
    suffix.trans ((List.dropWhile_suffix _).trans ((List.drop_suffix _ _).trans (List.dropWhile_suffix _)))
  refine ⟨findKeyword sql r, by rw [run]; rfl, ?_⟩
  rcases findKeyword_spec sql r with same | ⟨found, keyword⟩
  · exact .inl same
  · obtain ⟨t, eq⟩ := found.trans inSql
    have nonEmpty : 0 < (findKeyword sql r).length :=
      List.length_pos.mpr fun e => absurd (e ▸ keyword) (by decide)
    have split : sql.length = t.length + (findKeyword sql r).length := by
      rw [← List.length_append, eq]
    exact .inr ⟨t.length, by omega, ((congrArg (List.drop t.length) eq).symm.trans (List.drop_left _ _)).symm,
      keyword⟩

end TeeSelector
