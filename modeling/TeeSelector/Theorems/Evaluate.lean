import Mathlib.Algebra.Order.Field.Rat
import TeeSelector.Mapping

/-! The report of `evaluate` is consistent for every two mappings: each label of `BIT_MAP` has three bits, so
    no Hamming distance exceeds 3 and the histogram `dist_counts` over `range(4)` counts every compared query;
    a distance is 0 exactly when the two bit tuples are equal, so `exact` is the histogram's count at 0. The
    exact share is at most 1 and the mean distance at most the largest one. -/

namespace TeeSelector

/-! ### Bits and distances -/

theorem bitMap_length {label : String} {bits : List Nat} (h : bitMap.lookup label = some bits) :
    bits.length = 3 := by
  have all : ∀ kv ∈ bitMap, kv.2.length = 3 := by decide
  obtain ⟨l₁, l₂, split, -⟩ := List.lookup_eq_some_iff.mp h
  exact all _ (split ▸ List.mem_append_right l₁ (List.mem_cons_self _ l₂))

theorem hamming_cons (x y : Nat) (a b : List Nat) :
    hamming (x :: a) (y :: b) = hamming a b + if x = y then 0 else 1 := by
  simp only [hamming, List.zip_cons_cons, List.countP_cons, bne_iff_ne, ne_eq, ite_not]

theorem hamming_le (a b : List Nat) : hamming a b ≤ a.length :=
  (List.countP_le_length _).trans (List.length_zip a b ▸ Nat.min_le_left _ _)

/-- Two tuples of one length are at distance 0 exactly when they are equal. --/
theorem hamming_eq_zero_iff : ∀ {a b : List Nat}, a.length = b.length → (hamming a b = 0 ↔ a = b)
  | [], [], _ => by simp [hamming]
  | [], _ :: _, h | _ :: _, [], h => absurd h (by simp)
  | x :: a, y :: b, h => by
    rw [hamming_cons, List.cons.injEq, ← hamming_eq_zero_iff (Nat.succ.inj h)]
    split_ifs with same <;> simp [same]

/-- Every row compares two labels of `BIT_MAP`, so two triples of bits. --/
theorem bits_of_mem_evaluationRows {best pred : List (String × String)} {r : String × List Nat × List Nat}
    (h : r ∈ evaluationRows best pred) : r.2.1.length = 3 ∧ r.2.2.length = 3 := by
  obtain ⟨⟨query, bestCombo⟩, -, row⟩ := List.mem_filterMap.mp h
  simp only [bind, pure, Option.bind_eq_some, Option.some.injEq] at row
  obtain ⟨predCombo, -, b, hb, p, hp, rfl⟩ := row
  exact ⟨bitMap_length hb, bitMap_length hp⟩

/-! ### The histogram and the extremes -/

/-- Every distance up to 3 is counted once by `{i: dist_counts.get(i, 0) for i in range(4)}`. --/
theorem sum_count_range_four : ∀ {dists : List Nat}, (∀ d ∈ dists, d ≤ 3) →
    ((List.range 4).map fun i => dists.count i).sum = dists.length
  | [], _ => rfl
  | d :: ds, h => by
    have ih := sum_count_range_four fun x m => h x (List.mem_cons_of_mem d m)
    have hd := h d (List.mem_cons_self d ds)
    simp only [show List.range 4 = [0, 1, 2, 3] from rfl, List.map_cons, List.map_nil, List.sum_cons,
      List.sum_nil, List.count_cons, List.length_cons, beq_iff_eq] at ih ⊢
    split_ifs <;> omega

theorem foldr_max_le {n : Nat} : ∀ {l : List Nat}, (∀ x ∈ l, x ≤ n) → l.foldr max 0 ≤ n
  | [], _ => Nat.zero_le n
  | x :: l, h =>
    Nat.max_le.mpr ⟨h x (List.mem_cons_self x l), foldr_max_le fun y m => h y (List.mem_cons_of_mem x m)⟩

/-- A sum from `acc` adds at most the largest element for each element. --/
theorem foldl_add_le : ∀ (l : List Nat) (acc : Nat), l.foldl (· + ·) acc ≤ acc + l.length * l.foldr max 0
  | [], acc => Nat.le_add_right acc _
  | x :: l, acc => by
    have ih := foldl_add_le l (acc + x)
    have grow := Nat.mul_le_mul_left l.length (le_max_right x (l.foldr max 0))
    have first := le_max_left x (l.foldr max 0)
    simp only [List.foldl_cons, List.length_cons, List.foldr_cons, Nat.add_mul, Nat.one_mul]
    omega

/-! ### The report -/

/-- For every two mappings, a report of some compared queries is consistent: the histogram counts each of them,
    its count at distance 0 is `exact`, no distance exceeds 3, the exact share is at most 1 and the mean
    distance is at most the largest. --/
theorem evaluate_consistent (best pred : List (String × String)) (e : Evaluation)
    (h : evaluate best pred = some e) :
    0 < e.count ∧ (e.distCounts.map Prod.snd).sum = e.count ∧ e.distCounts.lookup 0 = some e.exact ∧
      e.maxHamming ≤ 3 ∧ e.exactPct ≤ 1 ∧ e.avgHamming ≤ e.maxHamming := by
  simp only [evaluate] at h
  split at h
  · exact absurd h (by simp)
  next nonEmpty =>
  obtain rfl := Option.some.inj h
  have bits := @bits_of_mem_evaluationRows best pred
  have dist_le : ∀ d ∈ (evaluationRows best pred).map fun r => hamming r.2.1 r.2.2, d ≤ 3 := by
    intro d m
    obtain ⟨r, mr, rfl⟩ := List.mem_map.mp m
    exact (hamming_le _ _).trans (bits mr).1.le
  have pos : 0 < (evaluationRows best pred).length :=
    List.length_pos.mpr fun empty => nonEmpty (empty ▸ rfl)
  refine ⟨pos, ?_, ?_, foldr_max_le dist_le, ?_, ?_⟩
  · rw [List.map_map]
    exact (sum_count_range_four dist_le).trans (List.length_map _ _)
  · show some (List.count 0 _) = some _
    rw [List.count_eq_countP, List.countP_map]
    exact congrArg some (List.countP_congr fun r m => by
      simp [hamming_eq_zero_iff ((bits m).1.trans (bits m).2.symm)])
  · exact div_le_one_of_le₀ (by exact_mod_cast List.countP_le_length _) (Nat.cast_nonneg _)
  · rw [div_le_iff₀ (by rw [List.length_map]; exact_mod_cast pos)]
    exact_mod_cast (foldl_add_le _ 0).trans_eq ((Nat.zero_add _).trans (Nat.mul_comm _ _))

/-- Three queries, two of them compared: `ce_cm` against `cm` and `all` against `all_three`. --/
theorem evaluate_consistent_two_rows :
    ∃ e, evaluate [("q1", "ce_cm"), ("q2", "all"), ("q3", "jn")] [("q1", "cm"), ("q2", "all_three")] = some e ∧
      0 < e.count ∧ (e.distCounts.map Prod.snd).sum = e.count ∧ e.distCounts.lookup 0 = some e.exact ∧
      e.maxHamming ≤ 3 ∧ e.exactPct ≤ 1 ∧ e.avgHamming ≤ e.maxHamming :=
  ⟨_, rfl, evaluate_consistent [("q1", "ce_cm"), ("q2", "all"), ("q3", "jn")] [("q1", "cm"), ("q2", "all_three")] _
    rfl⟩

end TeeSelector
